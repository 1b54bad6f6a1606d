import Mathlib.Logic.Function.Iterate
import TemplateCatalog.Catalog.Service

/-!
# Overlapping calls of a service

Loads, reloads and synchronizations that go on at the same time. A call is carried out in steps, and
between two steps of one call anything else may happen: steps of other calls, reads of the
published catalog, changes of the files, the passage of time and sweeps of the remembered listings.

The module introduces:

* `Stage`: how far a call has come, with its next step `Stage.next`;
* `System`, `Step`, `Run`: the files, a service and its calls, what may happen to them at any
  moment, and what has happened in a while;
* `Cycle`: a generation that was published, with the call that published it.

Main statements:

* `Request.iterate_next`: the steps of a call that nothing comes between are the whole call.
* `Run.perform`: whole calls, one after the other, are runs.
* `Run.invariant`: what every step keeps is kept by every run.
-/

namespace TemplateCatalog

/-! ### Calls -/

/-- What a caller asks of a service. -/
inductive Request where
  /-- To load the content tree that a path leads to. -/
  | load (path : Path)
  /-- To load it and believe no remembered listing. -/
  | reload (path : Path)
  /-- To bring a repository up to date and reload its content tree. -/
  | syncAndReload (repository : Repository)

/-- How far a call has come. -/
inductive Stage where
  /-- The repository is to be brought up to date. -/
  | syncing (repository : Repository)
  /-- The gate is to be taken, for a reload if `fresh` is set. -/
  | arriving (fresh : Bool) (path : Path)
  /-- The gate is taken. The listings of the content tree are to be forgotten. -/
  | forgetting (path : Path)
  /-- The number of the published generation is to be read. -/
  | numbering (path : Path)
  /-- The generation of the number is to be built. -/
  | building (number : Nat) (path : Path)
  /-- The generation is to be published, unless it could not be built. -/
  | publishing (number : Nat) (outcome : Except CatalogFault Build)
  /-- The gate is to be released. -/
  | leaving (answer : Except CatalogFault LoadReport)
  /-- The call has returned. -/
  | returned (answer : Except CatalogFault LoadReport)

namespace Request

/-- Where a call starts. -/
def start : Request → Stage
  | load path => .arriving false path
  | reload path => .arriving true path
  | syncAndReload repository => .syncing repository

/-- The whole call. -/
def perform (fs : FileSystem) (service : Service) :
    Request → Except CatalogFault LoadReport × Service
  | load path => service.load fs path
  | reload path => service.reload fs path
  | syncAndReload repository => service.syncAndReload fs repository

end Request

namespace Stage

/-- The call is between taking the gate and releasing it. -/
def holdsGate : Stage → Bool
  | forgetting _ | numbering _ | building .. | publishing .. | leaving _ => true
  | syncing _ | arriving .. | returned _ => false

/-- The number that the call has set aside for its generation. -/
def number? : Stage → Option Nat
  | building number _ | publishing number _ => some number
  | _ => none

/-- The generation that the next step publishes, with its number. -/
def publication? : Stage → Option (Nat × Build)
  | publishing number (.ok build) => some (number, build)
  | _ => none

/-- The answer of the call, once it is settled. -/
def answer? : Stage → Option (Except CatalogFault LoadReport)
  | leaving answer | returned answer => some answer
  | _ => none

/-- The next step of a call. -/
def next (fs : FileSystem) (service : Service) : Stage → Stage × Service
  | syncing repository =>
    match repository.sync fs with
    | .error fault => (returned (.error (.sync fault)), service)
    | .ok () => (arriving true repository.path, service)
  | arriving fresh path =>
    match service.enter? with
    | none => (returned (.error .loadInProgress), service)
    | some entered => (if fresh then forgetting path else numbering path, entered)
  | forgetting path =>
    match Service.resolve fs path with
    | .error fault => (leaving (.error fault), service)
    | .ok root =>
      (numbering root.path,
        { service with listings := (Listings.forget root service.listings).2 })
  | numbering path => (building (service.published.number + 1) path, service)
  | building number path =>
    let (outcome, after) := service.build fs path
    (publishing number outcome, after)
  | publishing _ (.error fault) => (leaving (.error fault), service)
  | publishing number (.ok build) =>
    (leaving (.ok (build.report number)), { service with published := build.generation number })
  | leaving answer => (returned answer, service.leave)
  | returned answer => (returned answer, service)

end Stage

/-! ### What may happen -/

/-- A question about the published catalog. -/
inductive Query where
  /-- What is published. -/
  | snapshot
  /-- The item with an id. -/
  | find (id : String)
  /-- The profiles that a filter admits. -/
  | list (filter : Filter)
  /-- The census. -/
  | census

/-- What the published catalog answers. -/
inductive Sight where
  | generation (generation : Generation)
  | item (item : Option CatalogItem)
  | profiles (profiles : List Item.Profile)
  | census (census : Census)

/-- The answer that a generation gives. -/
def Generation.answer (generation : Generation) : Query → Sight
  | .snapshot => .generation generation
  | .find id => .item (generation.find? id)
  | .list filter => .profiles (generation.list filter)
  | .census => .census generation.census

/-- What may happen to the remembered listings beside the calls. -/
inductive Upkeep where
  /-- Time passes. -/
  | elapse (duration : Nat)
  /-- Time will pass before the next accesses. -/
  | delay (pauses : List Nat)
  /-- What is expired is swept. -/
  | sweep
  /-- The sweeper is stopped. -/
  | close

/-- The remembered listings afterwards. -/
def Upkeep.apply (listings : Listings) : Upkeep → Listings
  | elapse duration => listings.elapse duration
  | delay pauses => { listings with pauses }
  | sweep => { listings with session := (listings.session.step .cleanup).2 }
  | close => listings.close

/-- A service among its callers. -/
structure System where
  /-- The files as they are. -/
  files : FileSystem
  /-- The service. -/
  service : Service
  /-- The calls so far, in the order in which they began. -/
  calls : List Stage

/-- Something that happens. -/
inductive Event where
  /-- A call begins. -/
  | called (request : Request)
  /-- The call of this place in the list goes on from where it stood. -/
  | advanced (call : Nat) (stage : Stage)
  /-- The published catalog is asked. -/
  | asked (query : Query) (sight : Sight)
  /-- The files change. -/
  | changed (files : FileSystem)
  /-- Something happens to the remembered listings. -/
  | kept (work : Upkeep)

/-- A moment of a system: what happens, and what the system is like afterwards. -/
inductive Step : System → Event → System → Prop
  | call (system : System) (request : Request) :
      Step system (.called request) { system with calls := system.calls ++ [request.start] }
  | advance {system : System} {call : Nat} {stage : Stage}
      (hcall : system.calls[call]? = some stage) :
      Step system (.advanced call stage)
        { system with
          service := (stage.next system.files system.service).2
          calls := system.calls.set call (stage.next system.files system.service).1 }
  | ask (system : System) (query : Query) :
      Step system (.asked query (system.service.published.answer query)) system
  | change (system : System) (files : FileSystem) :
      Step system (.changed files) { system with files }
  | keep (system : System) (work : Upkeep) :
      Step system (.kept work)
        { system with
          service := { system.service with listings := work.apply system.service.listings } }

/-- What happens in a while, in order. -/
inductive Run : System → List Event → System → Prop
  | nil (system : System) : Run system [] system
  | cons {system between after : System} {event : Event} {log : List Event}
      (hstep : Step system event between) (hrun : Run between log after) :
      Run system (event :: log) after

/-- A new service that nobody has called yet. -/
def System.start (files : FileSystem) (listingTtl : Nat) (options : CacheOptions) (hosted : Bool) :
    System :=
  ⟨files, .start listingTtl options hosted, []⟩

/-- A generation that was published. -/
structure Cycle where
  /-- The call that published it. -/
  call : Nat
  /-- Its number. -/
  number : Nat
  /-- What it was made from. -/
  build : Build

namespace Cycle

/-- The report of the call. -/
def report (cycle : Cycle) : LoadReport :=
  cycle.build.report cycle.number

/-- The generation. -/
def generation (cycle : Cycle) : Generation :=
  cycle.build.generation cycle.number

end Cycle

/-- The generation that is published by an event. -/
def Event.cycle? : Event → Option Cycle
  | advanced call stage => stage.publication?.map fun (number, build) => ⟨call, number, build⟩
  | _ => none

/-- The generations that were published in a while, in order. -/
def cycles (log : List Event) : List Cycle :=
  log.filterMap Event.cycle?

/-- The generation that is published after some others: the last one, whole. -/
def lastPublished (cycles : List Cycle) : Generation :=
  (cycles.getLast?.map Cycle.generation).getD .empty

/-! ### Single steps -/

namespace Service

theorem resolve_eq_ok {fs : FileSystem} {path : Path} {root : Location} :
    resolve fs path = .ok root ↔ fs.canonicalize path = .ok root := by
  unfold resolve
  cases fs.canonicalize path with
  | error cause => exact ⟨nofun, nofun⟩
  | ok found =>
    constructor <;> intro hsame <;> cases hsame <;> rfl

theorem resolve_eq_error {fs : FileSystem} {path : Path} {fault : CatalogFault} :
    resolve fs path = .error fault ↔ ∃ cause, fs.canonicalize path = .error cause ∧
      CatalogFault.contentRoot path cause = fault := by
  unfold resolve
  cases fs.canonicalize path with
  | error cause =>
    constructor
    · intro hsame
      exact ⟨cause, rfl, Except.error.inj hsame⟩
    · rintro ⟨_, ⟨⟩, rfl⟩
      rfl
  | ok found => exact ⟨nofun, nofun⟩

/-- A build publishes nothing. -/
@[simp]
theorem published_build (fs : FileSystem) (path : Path) (service : Service) :
    (service.build fs path).2.published = service.published := by
  unfold build
  split <;> rfl

/-- A build leaves the gate as it is. -/
@[simp]
theorem loading_build (fs : FileSystem) (path : Path) (service : Service) :
    (service.build fs path).2.loading = service.loading := by
  unfold build
  split <;> rfl

end Service

namespace Stage

variable (fs : FileSystem) (service : Service) (stage : Stage)

/-- The gate changes hands only when it is free and a call takes it, or when the call that has it
releases it. -/
theorem next_gate :
    ((stage.next fs service).1.holdsGate = stage.holdsGate ∧
      (stage.next fs service).2.loading = service.loading) ∨
    (stage.holdsGate = false ∧ service.loading = false ∧
      (stage.next fs service).1.holdsGate = true ∧ (stage.next fs service).2.loading = true) ∨
    (stage.holdsGate = true ∧ (stage.next fs service).1.holdsGate = false ∧
      (stage.next fs service).2.loading = false) := by
  cases stage with
  | syncing repository =>
    rw [next]
    cases repository.sync fs <;> exact .inl ⟨rfl, rfl⟩
  | arriving fresh path =>
    cases hloading : service.loading with
    | true => exact .inl (by simp [next, Service.enter?, hloading, holdsGate])
    | false =>
      refine .inr (.inl ⟨rfl, rfl, ?_⟩)
      cases fresh <;> simp [next, Service.enter?, hloading, holdsGate]
  | forgetting path =>
    rw [next]
    cases Service.resolve fs path <;> exact .inl ⟨rfl, rfl⟩
  | building number path => exact .inl ⟨rfl, service.loading_build fs path⟩
  | publishing number outcome => cases outcome <;> exact .inl ⟨rfl, rfl⟩
  | leaving answer => exact .inr (.inr ⟨rfl, rfl, rfl⟩)
  -- All other stages are steps within the gate, or outside of it.
  | _ => exact .inl ⟨rfl, rfl⟩

/-- What is published changes only when a generation is published. -/
theorem next_published :
    (stage.next fs service).2.published =
      (stage.publication?.map fun (number, build) => build.generation number).getD
        service.published := by
  cases stage with
  | syncing repository => rw [next]; cases repository.sync fs <;> rfl
  | arriving fresh path => rw [next, Service.enter?]; cases service.loading <;> rfl
  | forgetting path => rw [next]; cases Service.resolve fs path <;> rfl
  | building number path => exact service.published_build fs path
  | publishing number outcome => cases outcome <;> rfl
  | _ => rfl

/-- The number that a call sets aside is the one after the published generation, and it is kept
until the call publishes. -/
theorem next_number? {number : Nat} (hnumber : (stage.next fs service).1.number? = some number) :
    stage.publication? = none ∧
      (stage.number? = some number ∨ number = service.published.number + 1) := by
  cases stage with
  | syncing repository => rw [next] at hnumber; split at hnumber <;> simp [number?] at hnumber
  | arriving fresh path =>
    rw [next] at hnumber
    split at hnumber <;> cases fresh <;> simp [number?] at hnumber
  | forgetting path => rw [next] at hnumber; split at hnumber <;> simp [number?] at hnumber
  | numbering path => exact ⟨rfl, .inr (Option.some.inj hnumber).symm⟩
  | building reserved path => exact ⟨rfl, .inl hnumber⟩
  | publishing reserved outcome => cases outcome <;> simp [next, number?] at hnumber
  | leaving answer => simp [next, number?] at hnumber
  | returned answer => simp [next, number?] at hnumber

/-- A call that has built something has just built it. -/
theorem next_eq_publishing {number : Nat} {outcome : Except CatalogFault Build}
    (hnext : (stage.next fs service).1 = .publishing number outcome) :
    ∃ path, stage = .building number path ∧ (service.build fs path).1 = outcome := by
  cases stage with
  | syncing repository => rw [next] at hnext; split at hnext <;> simp at hnext
  | arriving fresh path =>
    rw [next] at hnext
    split at hnext <;> cases fresh <;> simp at hnext
  | forgetting path => rw [next] at hnext; split at hnext <;> simp at hnext
  | building reserved path =>
    simp only [next, publishing.injEq] at hnext
    exact ⟨path, by rw [hnext.1], hnext.2⟩
  | publishing reserved outcome => cases outcome <;> simp [next] at hnext
  | _ => simp [next] at hnext

/-- A settled answer stays, and only a publication settles an answer that is a report. -/
theorem next_answer?_eq_ok {report : LoadReport} :
    (stage.next fs service).1.answer? = some (.ok report) ↔
      stage.answer? = some (.ok report) ∨ ∃ number build,
        stage.publication? = some (number, build) ∧ build.report number = report := by
  cases stage with
  | syncing repository => rw [next]; cases repository.sync fs <;> simp [answer?, publication?]
  | arriving fresh path =>
    rw [next]
    cases service.enter? <;> cases fresh <;> simp [answer?, publication?]
  | forgetting path => rw [next]; cases Service.resolve fs path <;> simp [answer?, publication?]
  | publishing number outcome =>
    cases outcome <;> simp [next, answer?, publication?, and_assoc]
  | _ => simp [next, answer?, publication?]

/-- A settled answer never changes. -/
theorem next_answer?_of_some {answer : Except CatalogFault LoadReport}
    (hanswer : stage.answer? = some answer) : (stage.next fs service).1.answer? = some answer := by
  cases stage with
  | leaving settled => exact hanswer
  | returned settled => exact hanswer
  | _ => simp [answer?] at hanswer

end Stage

/-! ### Single moments -/

namespace Step

variable {system after : System} {event : Event}

/-- A call stands after a step where it stood before, or it begins, or the step is its own. -/
theorem call_cases (hstep : Step system event after) {call : Nat} {stage : Stage}
    (hcall : after.calls[call]? = some stage) :
    (system.calls[call]? = some stage ∧ ∀ before, event ≠ .advanced call before) ∨
      (∃ request : Request, stage = request.start) ∨
        ∃ before, event = .advanced call before ∧ system.calls[call]? = some before ∧
          stage = (before.next system.files system.service).1 := by
  cases hstep with
  | call request =>
    rw [List.getElem?_append] at hcall
    split at hcall
    · exact .inl ⟨hcall, by simp⟩
    · refine .inr (.inl ⟨request, ?_⟩)
      rw [List.getElem?_singleton] at hcall
      split at hcall
      · exact (Option.some.inj hcall).symm
      · cases hcall
  | @advance advanced before hbefore =>
    rw [List.getElem?_set] at hcall
    split at hcall
    · next hsame =>
      subst hsame
      rw [if_pos (List.getElem?_eq_some_iff.mp hbefore).1, Option.some.injEq] at hcall
      exact .inr (.inr ⟨before, rfl, hbefore, hcall.symm⟩)
    · next hother => exact .inl ⟨hcall, by simp [hother]⟩
  | ask | change | keep => exact .inl ⟨hcall, by simp⟩

/-- A step of a call takes it on from where it stood. -/
theorem of_advanced {call : Nat} {stage : Stage}
    (hstep : Step system (.advanced call stage) after) :
    system.calls[call]? = some stage ∧
      after.calls[call]? = some (stage.next system.files system.service).1 ∧
        after.service = (stage.next system.files system.service).2 := by
  cases hstep with
  | advance hcall =>
    exact ⟨hcall, List.getElem?_set_self (List.getElem?_eq_some_iff.mp hcall).1, rfl⟩

/-- A call stands after a step where it stood before, or the step is its own. -/
theorem goes_on (hstep : Step system event after) {call : Nat} {stage : Stage}
    (hcall : system.calls[call]? = some stage) :
    (after.calls[call]? = some stage ∧ ∀ before, event ≠ .advanced call before) ∨
      event = .advanced call stage := by
  cases hstep with
  | call request =>
    rw [List.getElem?_append_left (List.getElem?_eq_some_iff.mp hcall).1]
    exact .inl ⟨hcall, by simp⟩
  | @advance advanced before hbefore =>
    by_cases hsame : advanced = call
    · subst hsame
      rw [hcall, Option.some.injEq] at hbefore
      exact .inr (by rw [hbefore])
    · rw [List.getElem?_set_ne hsame]
      exact .inl ⟨hcall, by simp [hsame]⟩
  | ask | change | keep => exact .inl ⟨hcall, by simp⟩

end Step

/-! ### Whole calls -/

namespace Stage

/-- The next step of a call on a service. -/
def advance (fs : FileSystem) (call : Stage × Service) : Stage × Service :=
  call.1.next fs call.2

variable (fs : FileSystem) (service : Service)

theorem iterate_returned (answer : Except CatalogFault LoadReport) (steps : Nat) :
    (advance fs)^[steps] (returned answer, service) = (returned answer, service) :=
  Function.iterate_fixed rfl steps

theorem iterate_numbering (path : Path) :
    (advance fs)^[4] (numbering path, service) =
      (returned (service.cycle fs path).1, (service.cycle fs path).2.leave) := by
  have hpublished := service.published_build fs path
  simp only [Function.iterate_succ, Function.iterate_zero, Function.comp_apply, advance, next,
    Service.cycle]
  rcases hbuild : service.build fs path with ⟨outcome, after⟩
  rw [hbuild] at hpublished
  cases outcome with
  | error fault => rfl
  | ok build =>
    simp only at hpublished
    simp only [Service.publish, hpublished, id]

theorem iterate_forgetting (path : Path) :
    (advance fs)^[5] (forgetting path, service) =
      (returned (service.freshCycle fs path).1, (service.freshCycle fs path).2.leave) := by
  rw [Function.iterate_succ_apply]
  simp only [advance, next, Service.freshCycle]
  cases Service.resolve fs path with
  | error fault => exact iterate_returned fs service.leave (.error fault) 3
  | ok root => exact iterate_numbering fs _ root.path

theorem iterate_arriving (fresh : Bool) (path : Path) :
    (advance fs)^[6] (arriving fresh path, service) =
      let outcome := if fresh then service.reload fs path else service.load fs path
      (returned outcome.1, outcome.2) := by
  rw [Function.iterate_succ_apply]
  simp only [advance, next, Service.reload, Service.load, Service.alone]
  cases service.enter? with
  | none => cases fresh <;> exact iterate_returned fs service _ 5
  | some entered =>
    cases fresh with
    | false =>
      -- A load has no listings to forget, so its last step finds it returned.
      refine (Function.iterate_add_apply _ 1 4 _).trans ?_
      simp only [Bool.false_eq_true, if_false]
      rw [iterate_numbering]
      exact iterate_returned fs _ _ 1
    | true => exact iterate_forgetting fs entered path

end Stage

/-- The steps of a call that nothing comes between are the whole call. -/
theorem Request.iterate_next (request : Request) (fs : FileSystem) (service : Service) :
    (Stage.advance fs)^[7] (request.start, service) =
      (.returned (request.perform fs service).1, (request.perform fs service).2) := by
  cases request with
  | load path =>
    rw [Function.iterate_succ_apply', start, Stage.iterate_arriving]
    rfl
  | reload path =>
    rw [Function.iterate_succ_apply', start, Stage.iterate_arriving]
    rfl
  | syncAndReload repository =>
    rw [Function.iterate_succ_apply]
    simp only [Stage.advance, start, Stage.next, perform, Service.syncAndReload]
    cases repository.sync fs with
    | error fault => exact Stage.iterate_returned fs service _ 6
    | ok _ => exact Stage.iterate_arriving fs service true repository.path

/-! ### Runs -/

namespace Run

variable {system between after : System} {log earlier later : List Event}

theorem append (hearlier : Run system earlier between) (hlater : Run between later after) :
    Run system (earlier ++ later) after := by
  induction hearlier with
  | nil => exact hlater
  | cons hstep _ ih => exact .cons hstep (ih hlater)

theorem single {event : Event} (hstep : Step system event after) : Run system [event] after :=
  .cons hstep (.nil after)

/-- A run comes by a system between any two parts of its log. -/
theorem exists_between (hrun : Run system (earlier ++ later) after) :
    ∃ between, Run system earlier between ∧ Run between later after := by
  induction earlier generalizing system with
  | nil => exact ⟨system, .nil system, hrun⟩
  | cons event earlier ih =>
    cases hrun with
    | cons hstep hrest =>
      obtain ⟨between, hearlier, hlater⟩ := ih hrest
      exact ⟨between, .cons hstep hearlier, hlater⟩

/-- What holds at the start and is kept by every step of a run holds at its end. -/
@[elab_as_elim]
theorem invariant {inv : List Event → System → Prop} (hrun : Run system log after)
    (hstart : inv [] system)
    (hstep : ∀ done event current next, Run system done current → inv done current →
      Step current event next → inv (done ++ [event]) next) : inv log after := by
  -- Induction on what is still to come, with what is done as it grows.
  suffices hall : ∀ rest done current, Run system done current → inv done current →
      Run current rest after → inv (done ++ rest) after from
    hall log [] system (.nil system) hstart hrun
  intro rest
  induction rest with
  | nil =>
    intro done current _ hinv hrest
    cases hrest
    rwa [List.append_nil]
  | cons event rest ih =>
    intro done current hdone hinv hrest
    cases hrest with
    | cons hevent hrest =>
      have hnext := ih _ _ (hdone.append (.single hevent))
        (hstep done event _ _ hdone hinv hevent) hrest
      rwa [List.append_assoc] at hnext

/-- The steps of a call that nothing comes between are a run. -/
theorem iterate (files : FileSystem) (service : Service) (calls : List Stage) {call : Nat}
    {stage : Stage} (hcall : calls[call]? = some stage) (steps : Nat) :
    ∃ log, (∀ event ∈ log, ∃ reached, event = .advanced call reached) ∧
      Run ⟨files, service, calls⟩ log
        ⟨files, ((Stage.advance files)^[steps] (stage, service)).2,
          calls.set call ((Stage.advance files)^[steps] (stage, service)).1⟩ := by
  induction steps generalizing service calls stage with
  | zero =>
    obtain ⟨hlength, rfl⟩ := List.getElem?_eq_some_iff.mp hcall
    refine ⟨[], by simp, ?_⟩
    simp only [Function.iterate_zero, id, List.set_getElem_self]
    exact .nil _
  | succ steps ih =>
    have hlength : call < calls.length := (List.getElem?_eq_some_iff.mp hcall).1
    obtain ⟨log, hown, hlog⟩ := ih (stage.next files service).2
      (calls.set call (stage.next files service).1) (List.getElem?_set_self hlength)
    rw [List.set_set] at hlog
    refine ⟨.advanced call stage :: log, fun event hevent => ?_, .cons (.advance hcall) hlog⟩
    rcases List.mem_cons.mp hevent with rfl | hevent
    · exact ⟨stage, rfl⟩
    · exact hown event hevent

/-- A whole call is a run. -/
theorem perform (files : FileSystem) (service : Service) (calls : List Stage)
    (request : Request) :
    ∃ log, (∀ event ∈ log, ∃ reached, event = .advanced calls.length reached) ∧
      Run ⟨files, service, calls⟩ (.called request :: log)
        ⟨files, (request.perform files service).2,
          calls ++ [.returned (request.perform files service).1]⟩ := by
  have hcall : (calls ++ [request.start])[calls.length]? = some request.start := by simp
  obtain ⟨log, hown, hlog⟩ := iterate files service _ hcall 7
  rw [Request.iterate_next, List.set_append_right _ _ (Nat.le_refl _), Nat.sub_self] at hlog
  exact ⟨log, hown, .cons (.call _ request) hlog⟩

end Run

end TemplateCatalog
