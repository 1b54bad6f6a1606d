import Mathlib.Data.List.Nodup
import TemplateCatalog.Proofs.Catalog.SingleDocument

/-!
# The publication protocol

What the steps of overlapping calls add up to. One call at a time has the gate; only the call that
has the gate publishes; and what it publishes carries the next number, since nothing else is
published between the moment the number is read and the moment the generation is put in its place.

The module introduces:

* `System.HasGate`: a call is between taking the gate and releasing it;
* `Built`: a call has built something in the course of a run;
* `PublicationProtocol`: all that callers and readers can rely on.

Main statements:

* `Run.gate`: at most one call has the gate.
* `Run.published`: the last generation that was published is there, whole.
* `Run.numbers`: the numbers of the generations are 1, 2, 3 and so on.
* `Run.publicationProtocol`: the protocol, for every order in which calls may overlap.
-/

namespace TemplateCatalog

/-- A call is between taking the gate and releasing it. -/
def System.HasGate (system : System) (call : Nat) : Prop :=
  ∃ stage, system.calls[call]? = some stage ∧ stage.holdsGate = true

/-- In the course of a run from `start`, a call has built `outcome` under a number. -/
def Built (start : System) (log : List Event) (call number : Nat)
    (outcome : Except CatalogFault Build) : Prop :=
  ∃ earlier later path system,
    log = earlier ++ .advanced call (.building number path) :: later ∧ Run start earlier system ∧
      (system.service.build system.files path).1 = outcome

/-! ### Cycles -/

theorem cycles_append (earlier later : List Event) :
    cycles (earlier ++ later) = cycles earlier ++ cycles later :=
  List.filterMap_append

theorem cycles_snoc (log : List Event) (event : Event) :
    cycles (log ++ [event]) = cycles log ++ event.cycle?.toList := by
  rw [cycles_append]
  cases hcycle : event.cycle? <;> simp [cycles, hcycle]

theorem mem_cycles_snoc {log : List Event} {event : Event} {cycle : Cycle} :
    cycle ∈ cycles (log ++ [event]) ↔ cycle ∈ cycles log ∨ event.cycle? = some cycle := by
  rw [cycles_snoc, List.mem_append, Option.mem_toList]

theorem lastPublished_append (cycles : List Cycle) (next : Option Cycle) :
    lastPublished (cycles ++ next.toList) =
      (next.map Cycle.generation).getD (lastPublished cycles) := by
  cases next <;> simp [lastPublished]

theorem Event.cycle?_eq_some {event : Event} {cycle : Cycle} :
    event.cycle? = some cycle ↔ ∃ stage, event = .advanced cycle.call stage ∧
      stage.publication? = some (cycle.number, cycle.build) := by
  cases event with
  | advanced call stage =>
    obtain ⟨owner, number, build⟩ := cycle
    simp only [cycle?, Option.map_eq_some_iff, Prod.exists, Cycle.mk.injEq, advanced.injEq]
    constructor
    · rintro ⟨_, _, hpublication, rfl, rfl, rfl⟩
      exact ⟨stage, ⟨rfl, rfl⟩, hpublication⟩
    · rintro ⟨_, ⟨rfl, rfl⟩, hpublication⟩
      exact ⟨number, build, hpublication, rfl, rfl, rfl⟩
  | _ => simp [cycle?]

/-- What a call is about to publish it has built under that number. -/
theorem Stage.eq_of_publication? {stage : Stage} {number : Nat} {build : Build}
    (hpublication : stage.publication? = some (number, build)) :
    stage = .publishing number (.ok build) := by
  cases stage with
  | publishing reserved outcome =>
    cases outcome with
    | error fault => simp [publication?] at hpublication
    | ok built =>
      simp only [publication?, Option.some.injEq, Prod.mk.injEq] at hpublication
      rw [hpublication.1, hpublication.2]
  | _ => simp [publication?] at hpublication

/-- Whoever has set a number aside has the gate. -/
theorem Stage.holdsGate_of_number? {stage : Stage} {number : Nat}
    (hnumber : stage.number? = some number) : stage.holdsGate = true := by
  cases stage with
  | building reserved path => rfl
  | publishing reserved outcome => rfl
  | _ => simp [number?] at hnumber

/-! ### Single steps -/

namespace Step

variable {system after : System} {event : Event}

/-- What a step publishes is there afterwards. If it publishes nothing, all stays as it is. -/
theorem published (hstep : Step system event after) :
    after.service.published =
      (event.cycle?.map Cycle.generation).getD system.service.published := by
  cases hstep with
  | @advance call stage hcall =>
    rw [Stage.next_published]
    cases hpublication : stage.publication? <;> simp [Event.cycle?, hpublication, Cycle.generation]
  | call | ask | change | keep => rfl

/-- A step that is not a step of the call takes the gate neither to it nor from it. -/
theorem hasGate_iff (hstep : Step system event after) {call : Nat}
    (hother : ∀ stage, event ≠ .advanced call stage) :
    after.HasGate call ↔ system.HasGate call := by
  constructor
  · rintro ⟨stage, hstage, hgate⟩
    rcases hstep.call_cases hstage with ⟨hsame, -⟩ | ⟨request, rfl⟩ | ⟨before, hevent, -⟩
    · exact ⟨stage, hsame, hgate⟩
    · cases request <;> simp [Request.start, Stage.holdsGate] at hgate
    · exact absurd hevent (hother before)
  · rintro ⟨stage, hstage, hgate⟩
    rcases hstep.goes_on hstage with ⟨hsame, -⟩ | hevent
    · exact ⟨stage, hsame, hgate⟩
    · exact absurd hevent (hother stage)

/-- What a call has answered stays its answer. -/
theorem answer?_of_some (hstep : Step system event after) {call : Nat} {stage : Stage}
    {answer : Except CatalogFault LoadReport} (hcall : system.calls[call]? = some stage)
    (hanswer : stage.answer? = some answer) :
    ∃ later, after.calls[call]? = some later ∧ later.answer? = some answer := by
  rcases hstep.goes_on hcall with ⟨hsame, -⟩ | rfl
  · exact ⟨stage, hsame, hanswer⟩
  · exact ⟨_, hstep.of_advanced.2.1,
      stage.next_answer?_of_some system.files system.service hanswer⟩

end Step

/-- A call has the gate or not by the stage that it is at. -/
theorem System.hasGate_iff {system : System} {call : Nat} {stage : Stage}
    (hcall : system.calls[call]? = some stage) :
    system.HasGate call ↔ stage.holdsGate = true := by
  simp [HasGate, hcall]

/-- The number of what is published last counts the generations, if these are numbered in order. -/
theorem number_lastPublished {cycles : List Cycle}
    (hnumbered : ∀ index cycle, cycles[index]? = some cycle → cycle.number = index + 1) :
    (lastPublished cycles).number = cycles.length := by
  cases hlast : cycles.getLast? with
  | none =>
    rw [List.getLast?_eq_none_iff] at hlast
    subst hlast
    rfl
  | some cycle =>
    have hnumber : cycle.number = cycles.length - 1 + 1 := by
      rw [List.getLast?_eq_getElem?] at hlast
      exact hnumbered _ _ hlast
    have hpos : 0 < cycles.length := List.length_pos_iff.mpr (by rintro rfl; cases hlast)
    simp only [lastPublished, hlast, Option.map_some, Option.getD_some, Cycle.generation,
      Build.generation, Generation.number_ofItems, hnumber]
    omega

/-! ### Runs of a new service -/

namespace Run

variable {files : FileSystem} {ttl : Nat} {options : CacheOptions} {hosted : Bool}
  {log : List Event} {system : System}

/-- The gate is taken while one call has it, and no two calls have it. -/
theorem gate (hrun : Run (.start files ttl options hosted) log system) :
    ∃ holder : Option Nat, system.service.loading = holder.isSome ∧
      ∀ call, system.HasGate call ↔ holder = some call := by
  refine hrun.invariant ?_ ?_
  · exact ⟨none, rfl, by simp [System.HasGate, System.start]⟩
  rintro done event current next - ⟨holder, hloading, hholder⟩ hstep
  cases event with
  | advanced call stage =>
    obtain ⟨hbefore, hafter, hservice⟩ := hstep.of_advanced
    have hhad := System.hasGate_iff hbefore
    have hhas := System.hasGate_iff hafter
    have hothers : ∀ other, other ≠ call → (next.HasGate other ↔ current.HasGate other) :=
      fun other hother => hstep.hasGate_iff fun _ hevent => by
        injection hevent with hcall
        exact hother hcall.symm
    rcases stage.next_gate current.files current.service with
      ⟨hsame, hkept⟩ | ⟨-, hfree, htaken, hload⟩ | ⟨hheld, hleft, hload⟩
    · -- The gate stays with whom it was.
      refine ⟨holder, by rw [hservice, hkept, hloading], fun other => ?_⟩
      by_cases hother : other = call
      · rw [hother, hhas, hsame, ← hhad, hholder]
      · rw [hothers other hother, hholder]
    · -- The gate was free and is taken.
      have hnone : holder = none := by
        rw [hfree] at hloading
        simpa using hloading.symm
      refine ⟨some call, by rw [hservice, hload, Option.isSome_some], fun other => ?_⟩
      by_cases hother : other = call
      · rw [hother, hhas, htaken]
        simp
      · rw [hothers other hother, hholder, hnone]
        simpa using fun hsame => hother hsame.symm
    · -- The gate was taken and is released.
      have hsome : holder = some call := (hholder call).mp (hhad.mpr hheld)
      refine ⟨none, by rw [hservice, hload, Option.isSome_none], fun other => ?_⟩
      by_cases hother : other = call
      · rw [hother, hhas, hleft]
        simp
      · rw [hothers other hother, hholder, hsome]
        simpa using fun hsame => hother hsame.symm
  | _ =>
    refine ⟨holder, ?_, fun call => (hstep.hasGate_iff (by simp)).trans (hholder call)⟩
    cases hstep
    exact hloading

theorem eq_of_hasGate (hrun : Run (.start files ttl options hosted) log system)
    {first second : Nat} (hfirst : system.HasGate first) (hsecond : system.HasGate second) :
    first = second := by
  obtain ⟨holder, -, hholder⟩ := hrun.gate
  rw [hholder] at hfirst hsecond
  rw [hfirst] at hsecond
  exact Option.some.inj hsecond

theorem loading_iff (hrun : Run (.start files ttl options hosted) log system) :
    system.service.loading = true ↔ ∃ call, system.HasGate call := by
  obtain ⟨holder, hloading, hholder⟩ := hrun.gate
  simp only [hloading, hholder, Option.isSome_iff_exists]

/-- What is published is the last generation that was, whole. -/
theorem published (hrun : Run (.start files ttl options hosted) log system) :
    system.service.published = lastPublished (cycles log) := by
  refine hrun.invariant ?_ ?_
  · rfl
  intro done event current next _ hpublished hstep
  rw [hstep.published, cycles_snoc, lastPublished_append, hpublished]

/-- Generations are numbered in order, and a call that has set a number aside has the next one. -/
theorem numbers (hrun : Run (.start files ttl options hosted) log system) :
    (∀ index cycle, (cycles log)[index]? = some cycle → cycle.number = index + 1) ∧
      ∀ (call : Nat) (stage : Stage) (number : Nat), system.calls[call]? = some stage →
        stage.number? = some number → number = (cycles log).length + 1 := by
  refine hrun.invariant ?_ ?_
  · exact ⟨by simp [cycles], by simp [System.start]⟩
  rintro done event current next hdone ⟨hnumbered, hreserved⟩ hstep
  have hlast : current.service.published.number = (cycles done).length := by
    rw [hdone.published, number_lastPublished hnumbered]
  rw [cycles_snoc]
  cases hcycle : event.cycle? with
  | none =>
    rw [Option.toList_none, List.append_nil]
    refine ⟨hnumbered, fun call stage number hcall hnumber => ?_⟩
    -- Nothing is published, so a number that was the next one still is.
    rcases hstep.call_cases hcall with ⟨hsame, -⟩ | ⟨request, rfl⟩ | ⟨before, -, hbefore, rfl⟩
    · exact hreserved call stage number hsame hnumber
    · cases request <;> simp [Request.start, Stage.number?] at hnumber
    · obtain ⟨-, hkept | hnew⟩ := before.next_number? _ _ hnumber
      · exact hreserved call before number hbefore hkept
      · rw [hnew, hlast]
  | some cycle =>
    obtain ⟨stage, rfl, hpublication⟩ := Event.cycle?_eq_some.mp hcycle
    obtain rfl := Stage.eq_of_publication? hpublication
    obtain ⟨hbefore, -, -⟩ := hstep.of_advanced
    have hnumber : cycle.number = (cycles done).length + 1 := hreserved _ _ _ hbefore rfl
    refine ⟨fun index other hother => ?_, fun call later number hcall hlater => ?_⟩
    · rw [Option.toList_some, List.getElem?_append] at hother
      split at hother
      · exact hnumbered index other hother
      · rw [List.getElem?_singleton] at hother
        split at hother
        · cases hother
          omega
        · cases hother
    · -- Nobody else has set a number aside, since only the publishing call has the gate.
      exfalso
      rcases hstep.call_cases hcall with ⟨hsame, hother⟩ | ⟨request, rfl⟩ | ⟨before, hevent, -, rfl⟩
      · have hgate : current.HasGate call :=
          (System.hasGate_iff hsame).mpr (Stage.holdsGate_of_number? hlater)
        have hpublisher : current.HasGate cycle.call := (System.hasGate_iff hbefore).mpr rfl
        rw [hdone.eq_of_hasGate hgate hpublisher] at hother
        exact hother _ rfl
      · cases request <;> simp [Request.start, Stage.number?] at hlater
      · injection hevent with _ hstage
        subst hstage
        cases hlater

/-- The published generation has the number of the generations so far. -/
theorem number_published (hrun : Run (.start files ttl options hosted) log system) :
    system.service.published.number = (cycles log).length := by
  rw [hrun.published, number_lastPublished hrun.numbers.1]

/-- What a call is about to publish was built in the course of the run. -/
theorem built_of_publishing (hrun : Run (.start files ttl options hosted) log system) :
    ∀ (call number : Nat) (outcome : Except CatalogFault Build),
      system.calls[call]? = some (.publishing number outcome) →
        Built (.start files ttl options hosted) log call number outcome := by
  refine hrun.invariant ?_ ?_
  · simp [System.start]
  intro done event current next hdone hbuilt hstep call number outcome hcall
  rcases hstep.call_cases hcall with ⟨hsame, -⟩ | ⟨request, hrequest⟩ | ⟨before, rfl, -, hstage⟩
  · obtain ⟨earlier, later, path, between, rfl, hearlier, hbuild⟩ := hbuilt _ _ _ hsame
    exact ⟨earlier, later ++ [event], path, between, by simp, hearlier, hbuild⟩
  · cases request <;> cases hrequest
  · obtain ⟨path, rfl, hbuild⟩ := before.next_eq_publishing _ _ hstage.symm
    exact ⟨done, [], path, current, rfl, hdone, hbuild⟩

/-- Every generation that was published was built in the course of the run. -/
theorem built_of_mem (hrun : Run (.start files ttl options hosted) log system) :
    ∀ cycle ∈ cycles log,
      Built (.start files ttl options hosted) log cycle.call cycle.number (.ok cycle.build) := by
  refine hrun.invariant ?_ ?_
  · simp [cycles]
  intro done event current next hdone hbuilt hstep cycle hcycle
  -- What was built in a part of the run was built in the run.
  suffices hearlier : Built (.start files ttl options hosted) done cycle.call cycle.number
      (.ok cycle.build) by
    obtain ⟨earlier, later, path, between, rfl, hrest⟩ := hearlier
    exact ⟨earlier, later ++ [event], path, between, by simp, hrest⟩
  rcases mem_cycles_snoc.mp hcycle with hold | hnew
  · exact hbuilt cycle hold
  · obtain ⟨stage, rfl, hpublication⟩ := Event.cycle?_eq_some.mp hnew
    obtain rfl := Stage.eq_of_publication? hpublication
    exact hdone.built_of_publishing _ _ _ hstep.of_advanced.1

/-- The call that published a generation answers with its report. -/
theorem answered_of_mem (hrun : Run (.start files ttl options hosted) log system) :
    ∀ cycle ∈ cycles log, ∃ stage, system.calls[cycle.call]? = some stage ∧
      stage.answer? = some (.ok cycle.report) := by
  refine hrun.invariant ?_ ?_
  · simp [cycles]
  intro done event current next _ hanswered hstep cycle hcycle
  rcases mem_cycles_snoc.mp hcycle with hold | hnew
  · obtain ⟨stage, hstage, hanswer⟩ := hanswered cycle hold
    exact hstep.answer?_of_some hstage hanswer
  · obtain ⟨stage, rfl, hpublication⟩ := Event.cycle?_eq_some.mp hnew
    obtain ⟨-, hafter, -⟩ := hstep.of_advanced
    exact ⟨_, hafter,
      (stage.next_answer?_eq_ok _ _).mpr (.inr ⟨_, _, hpublication, rfl⟩)⟩

/-- A call that answers with a report has published the generation that the report is about. -/
theorem mem_of_answered (hrun : Run (.start files ttl options hosted) log system) :
    ∀ (call : Nat) (stage : Stage) (report : LoadReport), system.calls[call]? = some stage →
      stage.answer? = some (.ok report) →
        ∃ cycle ∈ cycles log, cycle.call = call ∧ cycle.report = report := by
  refine hrun.invariant ?_ ?_
  · simp [System.start]
  intro done event current next _ howned hstep call stage report hcall hanswer
  simp only [mem_cycles_snoc]
  rcases hstep.call_cases hcall with ⟨hsame, -⟩ | ⟨request, rfl⟩ | ⟨before, rfl, hbefore, rfl⟩
  · obtain ⟨cycle, hcycle, hreport⟩ := howned call stage report hsame hanswer
    exact ⟨cycle, .inl hcycle, hreport⟩
  · cases request <;> simp [Request.start, Stage.answer?] at hanswer
  · rcases (before.next_answer?_eq_ok _ _).mp hanswer with
      hsettled | ⟨number, build, hpublication, rfl⟩
    · obtain ⟨cycle, hcycle, hreport⟩ := howned call before report hbefore hsettled
      exact ⟨cycle, .inl hcycle, hreport⟩
    · exact ⟨⟨call, number, build⟩,
        .inr (Event.cycle?_eq_some.mpr ⟨before, rfl, hpublication⟩), rfl, rfl⟩

/-- No call publishes twice. -/
theorem nodup_calls (hrun : Run (.start files ttl options hosted) log system) :
    ((cycles log).map Cycle.call).Nodup := by
  refine hrun.invariant ?_ ?_
  · exact .nil
  intro done event current next hdone hnodup hstep
  rw [cycles_snoc]
  cases hcycle : event.cycle? with
  | none => simpa using hnodup
  | some cycle =>
    obtain ⟨stage, rfl, hpublication⟩ := Event.cycle?_eq_some.mp hcycle
    obtain rfl := Stage.eq_of_publication? hpublication
    obtain ⟨hbefore, -, -⟩ := hstep.of_advanced
    -- A call that has published has its answer, so it does not come to publish again.
    have hnew : cycle.call ∉ (cycles done).map Cycle.call := by
      intro hmem
      obtain ⟨other, hother, hsame⟩ := List.mem_map.mp hmem
      obtain ⟨stage, hstage, hanswer⟩ := hdone.answered_of_mem other hother
      rw [hsame, hbefore, Option.some.injEq] at hstage
      subst hstage
      cases hanswer
    rw [Option.toList_some, List.map_append, List.nodup_append]
    refine ⟨hnodup, List.nodup_singleton _, fun call hcall other hother hsame => ?_⟩
    rw [List.map_singleton, List.mem_singleton] at hother
    exact hnew (hother ▸ hsame ▸ hcall)

/-- A call that comes to the gate is turned away if another one has it, and gets it if nobody
has. -/
theorem step_arriving (hrun : Run (.start files ttl options hosted) log system) {call : Nat}
    {fresh : Bool} {path : Path} {after : System}
    (hstep : Step system (.advanced call (.arriving fresh path)) after) :
    ((∃ holder, system.HasGate holder) → after.service = system.service ∧
      after.calls[call]? = some (.returned (.error .loadInProgress))) ∧
    ((¬∃ holder, system.HasGate holder) → after.HasGate call ∧
      after.service = { system.service with loading := true }) := by
  obtain ⟨-, hafter, hservice⟩ := hstep.of_advanced
  rw [← hrun.loading_iff, Bool.not_eq_true]
  constructor
  · intro hloading
    simp only [Stage.next, Service.enter?, hloading, if_true] at hafter hservice
    exact ⟨hservice, hafter⟩
  · intro hloading
    simp only [Stage.next, Service.enter?, hloading, Bool.false_eq_true,
      if_false] at hafter hservice
    refine ⟨(System.hasGate_iff hafter).mpr ?_, hservice⟩
    cases fresh <;> rfl

/-- The steps of a call that fails publish nothing. -/
theorem published_of_failed (hrun : Run (.start files ttl options hosted) log system)
    {call : Nat} {stage step : Stage} {fault : CatalogFault} {earlier later : List Event}
    {before after : System} (hcall : system.calls[call]? = some stage)
    (hanswer : stage.answer? = some (.error fault))
    (hlog : log = earlier ++ .advanced call step :: later)
    (hstep : Step before (.advanced call step) after) :
    after.service.published = before.service.published := by
  rw [hstep.published]
  cases hcycle : (Event.advanced call step).cycle? with
  | none => rfl
  | some cycle =>
    -- A call that publishes answers with a report, so it does not fail.
    have hmem : cycle ∈ cycles log := by
      rw [hlog, cycles, List.filterMap_append, List.filterMap_cons_some hcycle]
      simp
    obtain ⟨settled, hsettled, hreport⟩ := hrun.answered_of_mem cycle hmem
    obtain ⟨_, hevent, -⟩ := Event.cycle?_eq_some.mp hcycle
    injection hevent with howner
    rw [← howner, hcall, Option.some.injEq] at hsettled
    rw [hsettled, hreport] at hanswer
    cases hanswer

/-- Whoever asks is answered from the last generation that was published by then. -/
theorem sight_eq (hrun : Run (.start files ttl options hosted) log system)
    {earlier later : List Event} {query : Query} {sight : Sight}
    (hlog : log = earlier ++ .asked query sight :: later) :
    sight = (lastPublished (cycles earlier)).answer query := by
  subst hlog
  obtain ⟨between, hearlier, hrest⟩ := hrun.exists_between
  cases hrest with
  | cons hstep _ =>
    cases hstep
    rw [hearlier.published]

end Run

/-! ### The protocol -/

/-- What callers and readers of a service can rely on, after a run that began with `start` and has
the given log. -/
structure PublicationProtocol (start : System) (log : List Event) (system : System) : Prop where
  /-- At most one call is between taking and releasing the gate. -/
  exclusive : ∀ first second, system.HasGate first → system.HasGate second → first = second
  /-- The service knows whether some call is there. -/
  gate : system.service.loading = true ↔ ∃ call, system.HasGate call
  /-- A call that finds the gate taken is turned away and changes nothing about the service. -/
  turnedAway : ∀ call fresh path after, (∃ holder, system.HasGate holder) →
    Step system (.advanced call (.arriving fresh path)) after →
      after.calls[call]? = some (.returned (.error .loadInProgress)) ∧
        after.service = system.service
  /-- A call that finds the gate free gets it. -/
  letIn : ∀ call fresh path after, (¬∃ holder, system.HasGate holder) →
    Step system (.advanced call (.arriving fresh path)) after → after.HasGate call
  /-- A call that has returned has the gate no more, whatever it answers. -/
  released : ∀ call answer, system.calls[call]? = some (.returned answer) → ¬system.HasGate call
  /-- What is published is the last generation that was, whole, or the empty one before it. -/
  published : system.service.published = lastPublished (cycles log)
  /-- Its number counts the generations that were published. -/
  number : system.service.published.number = (cycles log).length
  /-- The reports of the calls that published them count the generations from one on. -/
  numbered : ∀ index cycle, (cycles log)[index]? = some cycle →
    cycle.number = index + 1 ∧ cycle.report.generation = index + 1
  /-- A generation is the one that its call has built. -/
  built : ∀ cycle ∈ cycles log, Built start log cycle.call cycle.number (.ok cycle.build)
  /-- The call answers with its report. -/
  answered : ∀ cycle ∈ cycles log, ∃ stage, system.calls[cycle.call]? = some stage ∧
    stage.answer? = some (.ok cycle.report)
  /-- A call that answers with a report has published one generation, which the report is about. -/
  owned : ∀ call stage report, system.calls[call]? = some stage →
    stage.answer? = some (.ok report) →
      ∃ cycle ∈ cycles log, cycle.report = report ∧
        ∀ other ∈ cycles log, other.call = call ↔ other = cycle
  /-- A call that fails has left what is published as it was. -/
  failed : ∀ call stage fault, system.calls[call]? = some stage →
    stage.answer? = some (.error fault) → ∀ earlier step later before after,
      log = earlier ++ .advanced call step :: later → Run start earlier before →
        Step before (.advanced call step) after →
          after.service.published = before.service.published
  /-- Whoever asks is answered from one whole generation, the last one by then. -/
  sights : ∀ earlier query sight later, log = earlier ++ .asked query sight :: later →
    sight = (lastPublished (cycles earlier)).answer query

/-- However loads, reloads and synchronizations overlap, and whatever happens between their steps:
they publish one after the other, and everybody sees whole generations. -/
theorem Run.publicationProtocol {files : FileSystem} {ttl : Nat} {options : CacheOptions}
    {hosted : Bool} {log : List Event} {system : System}
    (hrun : Run (.start files ttl options hosted) log system) :
    PublicationProtocol (.start files ttl options hosted) log system where
  exclusive _ _ hfirst hsecond := hrun.eq_of_hasGate hfirst hsecond
  gate := hrun.loading_iff
  turnedAway _ _ _ _ htaken hstep := ((hrun.step_arriving hstep).1 htaken).symm
  letIn _ _ _ _ hfree hstep := ((hrun.step_arriving hstep).2 hfree).1
  released call answer hcall hgate := by
    obtain ⟨stage, hstage, hheld⟩ := hgate
    rw [hcall, Option.some.injEq] at hstage
    subst hstage
    cases hheld
  published := hrun.published
  number := hrun.number_published
  numbered index cycle hcycle :=
    ⟨hrun.numbers.1 index cycle hcycle, hrun.numbers.1 index cycle hcycle⟩
  built := hrun.built_of_mem
  answered := hrun.answered_of_mem
  owned call stage report hcall hanswer := by
    obtain ⟨cycle, hcycle, rfl, hreport⟩ := hrun.mem_of_answered call stage report hcall hanswer
    refine ⟨cycle, hcycle, hreport, fun other hother => ⟨fun hsame => ?_, ?_⟩⟩
    · exact List.inj_on_of_nodup_map hrun.nodup_calls hother hcycle hsame
    · rintro rfl
      rfl
  failed _ _ _ hcall hanswer _ _ _ _ _ hlog _ hstep :=
    hrun.published_of_failed hcall hanswer hlog hstep
  sights _ _ _ _ hlog := hrun.sight_eq hlog

/-- Two loads begin, and the second one comes to the gate while the first one has it. The second one
is turned away, and the first one goes on until it has published its item and left. -/
theorem publicationProtocol_of_two_loads :
    let files := singleDocument "id: x\ntemplate: hello"
    let start := System.start files 1000 ⟨4, none, none⟩ false
    ∃ build system,
      PublicationProtocol start
        [.called (.load ⟨"/"⟩), .called (.reload ⟨"/"⟩), .advanced 0 (.arriving false ⟨"/"⟩),
          .advanced 1 (.arriving true ⟨"/"⟩), .advanced 0 (.numbering ⟨"/"⟩),
          .advanced 0 (.building 1 ⟨"/"⟩), .advanced 0 (.publishing 1 (.ok build)),
          .advanced 0 (.leaving (.ok (build.report 1)))]
        system ∧
      system.calls = [.returned (.ok (build.report 1)), .returned (.error .loadInProgress)] ∧
      ∃ item, system.service.published.items = [item] ∧ item.id = "x" := by
  intro files start
  let build := Build.ofFindings files (.ofDocument .top)
  have hbuilt : (Service.build files Location.top.path
      { start.service with loading := true }).1 = .ok build :=
    Service.build_singleDocument _ rfl
  have hready : some (Stage.publishing 1 (Service.build files ⟨"/"⟩
      { start.service with loading := true }).1) = some (.publishing 1 (.ok build)) := by
    rw [show (⟨"/"⟩ : Path) = Location.top.path from rfl, hbuilt]
  -- What the document defines is the only item of the build.
  obtain ⟨added, hitems, hid⟩ := @Build.exists_item_of_single files (.ofDocument .top) ⟨["a.yaml"]⟩
    rfl (·.id == "x") (by rw [readItem, readText_singleDocument]; decide +kernel) 1
  refine ⟨build, _, Run.publicationProtocol <|
    .cons (.call _ _) <| .cons (.call _ _) <| .cons (.advance rfl) <| .cons (.advance rfl) <|
    .cons (.advance rfl) <| .cons (.advance rfl) <| .cons (.advance hready) <|
    .cons (.advance rfl) <| .nil _, rfl, added, hitems, eq_of_beq hid⟩

end TemplateCatalog
