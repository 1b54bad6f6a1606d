import TemplateCatalog.Proofs.Catalog.Memory
import TemplateCatalog.Proofs.Catalog.Publication

/-!
# What a load comes to

What a load should come to is settled by the files alone: `plainBuild` looks into every directory
itself. A load that believes remembered listings comes to the same as long as those of its content
tree are real. After a reload has forgotten its content tree there are no others left, and while the
files stay as they are no others are remembered in the first place.

The module introduces:

* `plainBuild`: what a path is loaded to by somebody who remembers nothing;
* `Stage.OnTrack`: a call on its way to what a path should be loaded to;
* `Agrees`: the answer of a call, compared with a load of a service of its own.

Main statements:

* `Service.build_fst_of_holds`: a build that is given real listings is the plain one.
* `Service.reload_fresh`: a reload comes to what a new service would load.
* `Run.load_transparent`: as long as the files stay as they are, so does every load.
-/

namespace TemplateCatalog

/-! ### Plain builds -/

/-- What is found below a root, if every directory is looked into. -/
def plainScan (fs : FileSystem) (root : Location) : Except CatalogFault Findings :=
  match fs.stat root.path with
  | .error cause => .error (.contentRoot root.path cause)
  | .ok node =>
    if node.isDirectory then
      (Id.run (Scan.scan (m := Id) fs.listing root)).mapError (.contentRoot root.path)
    else .error (.notADirectory root.path)

/-- What a path is loaded to, if every directory is looked into. -/
def plainBuild (fs : FileSystem) (path : Path) : Except CatalogFault Build :=
  match Service.resolve fs path with
  | .error fault => .error fault
  | .ok root => (plainScan fs root).map (Build.ofFindings fs)

/-- A root that can be listed is loaded to what its scan finds. -/
theorem plainBuild_of_scan {fs : FileSystem} {path : Path} {root : Location}
    (hroot : fs.canonicalize path = .ok root) {children : List (String × Tree)}
    (hchildren : fs.readDirectory root.path = .ok children) {findings : Findings}
    (hscan : Id.run (Scan.scan (m := Id) fs.listing root) = .ok findings) :
    plainBuild fs path = .ok (.ofFindings fs findings) := by
  have hstat := FileSystem.stat_of_readDirectory hchildren
  simp only [plainBuild, Service.resolve_eq_ok.mpr hroot, plainScan, hstat, hscan]
  rfl

/-- The top is loaded to what its scan finds. -/
theorem plainBuild_path_top {fs : FileSystem} {children : List (String × Tree)}
    (htop : fs.node? .top = some (.directory true children)) {findings : Findings}
    (hscan : Id.run (Scan.scan (m := Id) fs.listing .top) = .ok findings) :
    plainBuild fs Location.top.path = .ok (.ofFindings fs findings) :=
  have hcanonical := FileSystem.canonicalize_path_top htop
  plainBuild_of_scan hcanonical (FileSystem.readDirectory_path hcanonical htop) hscan

/-- A listing that is the real one, unless it lies outside of what a path leads to. -/
def RealWithin (fs : FileSystem) (path : Path) (directory : Location) (listing : Listing) : Prop :=
  ∀ root, Service.resolve fs path = .ok root → root.isWithin directory = true →
    fs.listing directory = .ok listing

theorem FileSystem.reads_realWithin (fs : FileSystem) (path : Path) :
    fs.Reads (RealWithin fs path) :=
  fun _ _ hlisting _ _ _ => hlisting

/-- A path is loaded to the same as the path of the root that it leads to. -/
theorem plainBuild_path {fs : FileSystem} (hwf : fs.WellFormed) {path : Path} {root : Location}
    (hroot : Service.resolve fs path = .ok root) :
    plainBuild fs root.path = plainBuild fs path := by
  have hpath : plainBuild fs path = (plainScan fs root).map (Build.ofFindings fs) := by
    simp only [plainBuild, hroot]
  rw [hpath]
  cases hagain : Service.resolve fs root.path with
  | error fault =>
    -- What cannot be resolved cannot be looked at either, and the fault is the same.
    obtain ⟨cause, hcause, rfl⟩ := Service.resolve_eq_error.mp hagain
    have hstat : fs.stat root.path = .error cause := by
      simp [FileSystem.stat, hcause, bind, Except.bind]
    simp only [plainBuild, hagain, plainScan, hstat]
    rfl
  | ok again =>
    have hsame : again = root :=
      hwf.eq_of_canonicalize_path (Service.resolve_eq_ok.mp hroot) (Service.resolve_eq_ok.mp hagain)
    simp only [plainBuild, hagain, hsame]

/-- The listing of a directory is the real one, if the remembered one is. -/
theorem Listings.ensures_list_eq {fs : FileSystem} {directory : Location}
    {valid : Location → Listing → Prop} (hreads : fs.Reads valid)
    (hreal : ∀ listing, valid directory listing → fs.listing directory = .ok listing) (ttl : Nat) :
    Ensures (Listings.Holds valid) (Listings.list fs ttl directory)
      (· = fs.listing directory) := by
  refine (Listings.ensures_list (hreads directory)).mono ?_
  -- A listing that is not read now is a remembered one.
  rintro result (hresult | ⟨listing, rfl, hvalid⟩)
  · exact hresult
  · exact (hreal listing hvalid).symm

namespace Service

/-- A scan that is given real listings finds what a plain scan finds. -/
theorem ensures_scan_plain {fs : FileSystem} {root : Location} {valid : Location → Listing → Prop}
    (hreads : fs.Reads valid)
    (hreal : ∀ directory listing, root.isWithin directory = true → valid directory listing →
      fs.listing directory = .ok listing) (ttl : Nat) :
    Ensures (Listings.Holds valid) (scan fs ttl root) (· = plainScan fs root) := by
  have hlist : ∀ directory, root.isWithin directory = true →
      Ensures (Listings.Holds valid) (Listings.list fs ttl directory)
        (· = fs.listing directory) :=
    fun directory hwithin => Listings.ensures_list_eq hreads
      (fun listing => hreal directory listing hwithin) ttl
  unfold scan plainScan
  cases fs.stat root.path with
  | error cause => exact .pure rfl
  | ok node =>
    simp only
    split
    · refine Ensures.bind (Scan.ensures_scan_eq hlist root.isWithin_self) fun result hresult => ?_
      rw [← hresult]
      cases result <;> exact .pure rfl
    · exact .pure rfl

/-- A build that is given real listings is the plain one. -/
theorem build_fst_of_holds {fs : FileSystem} {path : Path} {service : Service}
    (hholds : service.listings.Holds (RealWithin fs path)) :
    (service.build fs path).1 = plainBuild fs path := by
  unfold build plainBuild
  cases hroot : resolve fs path with
  | error fault => rfl
  | ok root =>
    have hscan : (scan fs service.listingTtl root service.listings).1 = plainScan fs root :=
      (ensures_scan_plain (fs.reads_realWithin path)
        (fun directory listing hwithin hvalid => hvalid root hroot hwithin) service.listingTtl
        service.listings hholds).1
    show (scan fs service.listingTtl root service.listings).1.map (Build.ofFindings fs) = _
    rw [hscan]

/-- A load comes to what was built: it answers with the report of the next generation, which is
published then, or with a fault, which leaves what is published alone. -/
structure ComesTo (service : Service) (outcome : Except CatalogFault Build)
    (result : Except CatalogFault LoadReport × Service) : Prop where
  answer : result.1 = outcome.map (Build.report (service.published.number + 1))
  published : result.2.published =
    (outcome.toOption.map (Build.generation (service.published.number + 1))).getD service.published

/-- A cycle that is given real listings comes to what the path should be loaded to. -/
theorem cycle_comesTo {fs : FileSystem} {path : Path} {service : Service}
    (hholds : service.listings.Holds (RealWithin fs path)) :
    ComesTo service (plainBuild fs path) (service.cycle fs path) := by
  have hbuild := build_fst_of_holds hholds
  have hpublished := service.published_build fs path
  unfold cycle
  rcases hresult : service.build fs path with ⟨outcome, after⟩
  rw [hresult] at hbuild hpublished
  simp only at hbuild hpublished
  rw [← hbuild]
  cases outcome with
  | error fault => exact ⟨rfl, hpublished⟩
  | ok build =>
    -- The build has published nothing, so the number is still the next one.
    simp only [publish, hpublished]
    exact ⟨rfl, rfl⟩

/-- A load that finds the gate free and real listings comes to what the path should be loaded to. -/
theorem load_comesTo {fs : FileSystem} {path : Path} {service : Service}
    (hfree : service.loading = false)
    (hholds : service.listings.Holds (RealWithin fs path)) :
    ComesTo service (plainBuild fs path) (service.load fs path) := by
  obtain ⟨hanswer, hpublished⟩ :=
    @cycle_comesTo fs path { service with loading := true } hholds
  simp only [load, alone, enter?, hfree, Bool.false_eq_true, if_false]
  exact ⟨hanswer, hpublished⟩

theorem load_start_comesTo (fs : FileSystem) (path : Path) (ttl : Nat) (options : CacheOptions)
    (hosted : Bool) :
    ComesTo (start ttl options hosted) (plainBuild fs path)
      ((start ttl options hosted).load fs path) :=
  load_comesTo rfl (Listings.holds_start options hosted)

/-- What is left after the listings of a root were forgotten is real within it. -/
theorem holds_realWithin_forget {fs : FileSystem} (hwf : fs.WellFormed) {path : Path}
    {root : Location} (hroot : resolve fs path = .ok root) (listings : Listings) :
    (Listings.forget root listings).2.Holds (RealWithin fs root.path) := by
  intro stored hstored again hagain hwithin
  -- Whatever the path of the root leads to, it is the root.
  have hsame : again = root :=
    hwf.eq_of_canonicalize_path (Service.resolve_eq_ok.mp hroot) (Service.resolve_eq_ok.mp hagain)
  rw [hsame, Listings.holds_forget root listings stored hstored] at hwithin
  cases hwithin

/-- A reload that finds the gate free comes to what the path should be loaded to, whatever is
remembered. -/
theorem reload_comesTo {fs : FileSystem} (hwf : fs.WellFormed) (path : Path) {service : Service}
    (hfree : service.loading = false) :
    ComesTo service (plainBuild fs path) (service.reload fs path) := by
  simp only [reload, alone, enter?, hfree, Bool.false_eq_true, if_false, freshCycle]
  cases hroot : resolve fs path with
  | error fault =>
    simp only [plainBuild, hroot]
    exact ⟨rfl, rfl⟩
  | ok root =>
    -- The cycle is about the path of the root, which is loaded to the same as the path itself.
    obtain ⟨hanswer, hpublished⟩ := @cycle_comesTo fs root.path
      { service with loading := true, listings := (Listings.forget root service.listings).2 }
      (holds_realWithin_forget hwf hroot service.listings)
    rw [← plainBuild_path hwf hroot]
    exact ⟨hanswer, hpublished⟩

end Service

/-! ### Calls on their way -/

/-- A call is on its way to what a path should be loaded to. As long as it has not built anything,
what is remembered of its content tree is real; what it has built is the plain build; and it answers
with the report of a generation that it has published, unless there is none. -/
def Stage.OnTrack (fs : FileSystem) (path : Path) (call : Nat) (published : List Cycle)
    (listings : Listings) : Stage → Prop
  | .syncing _ | .arriving .. => False
  | .forgetting root => root = path
  | .numbering root | .building _ root =>
    plainBuild fs root = plainBuild fs path ∧ listings.Holds (RealWithin fs root)
  | .publishing _ outcome => outcome = plainBuild fs path
  | .leaving answer | .returned answer =>
    (∃ fault, plainBuild fs path = .error fault ∧ answer = .error fault) ∨
      ∃ cycle ∈ published, cycle.call = call ∧ plainBuild fs path = .ok cycle.build ∧
        answer = .ok cycle.report

namespace Stage

variable {fs : FileSystem} {path : Path} {call : Nat} {published more : List Cycle}
  {listings after : Listings} {stage : Stage}

/-- Whatever keeps real listings real and takes back no generation leaves a call on its way. -/
theorem OnTrack.mono (htrack : stage.OnTrack fs path call published listings)
    (hholds : ∀ root, listings.Holds (RealWithin fs root) → after.Holds (RealWithin fs root)) :
    stage.OnTrack fs path call (published ++ more) after := by
  cases stage with
  | numbering root => exact ⟨htrack.1, hholds root htrack.2⟩
  | building number root => exact ⟨htrack.1, hholds root htrack.2⟩
  | leaving answer | returned answer =>
    rcases htrack with hfailed | ⟨cycle, hcycle, hanswer⟩
    · exact .inl hfailed
    · exact .inr ⟨cycle, List.mem_append_left more hcycle, hanswer⟩
  | _ => exact htrack

/-- A call that is on its way stays on it with every step of its own. -/
theorem OnTrack.next {service : Service} (hwf : fs.WellFormed)
    (htrack : stage.OnTrack fs path call published service.listings) :
    (stage.next fs service).1.OnTrack fs path call
      (published ++ (Event.advanced call stage).cycle?.toList)
      (stage.next fs service).2.listings := by
  cases stage with
  | syncing repository => cases htrack
  | arriving fresh root => cases htrack
  | forgetting root =>
    cases htrack
    rw [Stage.next]
    cases hroot : Service.resolve fs path with
    | error fault => exact .inl ⟨fault, by simp only [plainBuild, hroot], rfl⟩
    | ok root =>
      -- From here on the call goes by the path of the root, within which nothing is remembered.
      exact ⟨plainBuild_path hwf hroot,
        Service.holds_realWithin_forget hwf hroot service.listings⟩
  | numbering root => exact OnTrack.mono htrack fun _ hholds => hholds
  | building number root =>
    exact (Service.build_fst_of_holds htrack.2).trans htrack.1
  | publishing number outcome =>
    cases outcome with
    | error fault => exact .inl ⟨fault, htrack.symm, rfl⟩
    | ok build =>
      have hnew : (Event.advanced call (.publishing number (.ok build))).cycle? =
          some ⟨call, number, build⟩ := rfl
      exact .inr ⟨⟨call, number, build⟩, by simp [hnew], rfl, htrack.symm, rfl⟩
  | leaving answer =>
    exact @OnTrack.mono _ _ _ _ _ _ _ (.leaving answer) htrack fun _ hholds => hholds
  | returned answer => exact OnTrack.mono htrack fun _ hholds => hholds

end Stage

/-- A call that is on its way stays on it as long as the files stay as they are, whatever else
happens. -/
theorem Run.onTrack {system after : System} {log : List Event} (hrun : Run system log after)
    (hkept : ∀ files, .changed files ∉ log) {files : FileSystem} (hfiles : system.files = files)
    (hwf : files.WellFormed) {path : Path} {call : Nat} {stage : Stage}
    (hcall : system.calls[call]? = some stage) {published : List Cycle}
    (htrack : stage.OnTrack files path call published system.service.listings) :
    ∃ last, after.calls[call]? = some last ∧
      last.OnTrack files path call (published ++ cycles log) after.service.listings := by
  induction hrun generalizing stage published with
  | nil => exact ⟨stage, hcall, by simpa [cycles] using htrack⟩
  | @cons system between after event log hstep hrest ih =>
    have hsame : between.files = files := by
      cases hstep with
      | change changed => exact absurd List.mem_cons_self (hkept changed)
      | call | advance | ask | keep => exact hfiles
    have hrest : ∀ files, .changed files ∉ log := fun files hmem =>
      hkept files (List.mem_cons_of_mem _ hmem)
    have hcycles : published ++ cycles (event :: log) =
        published ++ event.cycle?.toList ++ cycles log := by
      rw [List.append_assoc]
      cases hcycle : event.cycle? <;> simp [cycles, hcycle]
    rw [hcycles]
    rcases hstep.goes_on hcall with ⟨hbetween, -⟩ | rfl
    · -- Others read the same files, so what they put into the memory is real, too.
      refine ih hrest hsame hbetween (htrack.mono fun root hholds => ?_)
      exact hstep.holds (hfiles ▸ files.reads_realWithin root) hholds
    · obtain ⟨-, hbetween, hservice⟩ := hstep.of_advanced
      rw [hfiles] at hbetween hservice
      exact ih hrest hsame hbetween (hservice ▸ htrack.next hwf)

/-- There is a run in which a new service publishes what a path should be loaded to, and in which
the files stay as they are. -/
theorem Run.exists_load {files : FileSystem} {path : Path} {build : Build}
    (hbuild : plainBuild files path = .ok build) (ttl : Nat) (options : CacheOptions)
    (hosted : Bool) :
    ∃ log system, Run (.start files ttl options hosted) log system ∧
      ⟨0, 1, build⟩ ∈ cycles log ∧ ∀ changed, .changed changed ∉ log := by
  have hbuilt : (Service.build files path
      { Service.start ttl options hosted with loading := true }).1 = .ok build :=
    (Service.build_fst_of_holds (Listings.holds_start options hosted)).trans hbuild
  have hready : some (Stage.publishing 1 (Service.build files path
      { Service.start ttl options hosted with loading := true }).1) =
        some (.publishing 1 (.ok build)) := by
    rw [hbuilt]
  let log : List Event := [.called (.load path), .advanced 0 (.arriving false path),
    .advanced 0 (.numbering path), .advanced 0 (.building 1 path),
    .advanced 0 (.publishing 1 (.ok build))]
  have hrun : ∃ system, Run (.start files ttl options hosted) log system :=
    ⟨_, .cons (.call _ _) <| .cons (.advance rfl) <| .cons (.advance rfl) <|
      .cons (.advance rfl) <| .cons (.advance hready) <| .nil _⟩
  obtain ⟨system, hrun⟩ := hrun
  exact ⟨log, system, hrun, List.mem_singleton_self _, by simp [log]⟩

/-! ### Comparing loads -/

/-- What a generation consists of does not depend on its number. -/
theorem Generation.ofItems_eq (number other : Nat) (library : Template.Library)
    (items : List CatalogItem) :
    ofItems number library items = { ofItems other library items with number } := by
  -- The fold starts from any generation, so that the induction goes through.
  suffices hall : ∀ generation : Generation,
      items.foldl add { generation with number } =
        { items.foldl add generation with number } from hall (bare other library)
  induction items with
  | nil => exact fun _ => rfl
  | cons item items ih =>
    intro generation
    have hadd : ({ generation with number } : Generation).add item =
        { generation.add item with number } := by
      unfold add
      dsimp only
      split <;> rfl
    rw [List.foldl_cons, List.foldl_cons, hadd, ih]

theorem Build.generation_eq (build : Build) (number other : Nat) :
    build.generation number = { build.generation other with number } :=
  Generation.ofItems_eq number other _ _

theorem Build.report_eq (build : Build) (number other : Nat) :
    build.report number = { build.report other with generation := number } := by
  simp only [report, build.generation_eq number other]

/-- Two loads have come to the same, but for the numbers of their generations. -/
def SameLoad (first second : Except CatalogFault LoadReport × Service) : Prop :=
  match first.1, second.1 with
  | .error fault, .error other => fault = other
  | .ok report, .ok other =>
    report = { other with generation := report.generation } ∧
      first.2.published = { second.2.published with number := report.generation }
  | _, _ => False

/-- The answer of a call is what a load came to, and if it is a report, then the call has published
what the load has published, but for the number. -/
def Agrees (published : List Cycle) (call : Nat) (answer : Except CatalogFault LoadReport)
    (result : Except CatalogFault LoadReport × Service) : Prop :=
  match result.1 with
  | .error fault => answer = .error fault
  | .ok report =>
    ∃ cycle ∈ published, cycle.call = call ∧ answer = .ok cycle.report ∧
      cycle.report = { report with generation := cycle.number } ∧
        cycle.generation = { result.2.published with number := cycle.number }

theorem Service.ComesTo.sameLoad {service other : Service} {outcome : Except CatalogFault Build}
    {first second : Except CatalogFault LoadReport × Service}
    (hfirst : ComesTo service outcome first) (hsecond : ComesTo other outcome second) :
    SameLoad first second := by
  unfold SameLoad
  rw [hfirst.answer, hsecond.answer, hfirst.published, hsecond.published]
  cases outcome with
  | error fault => rfl
  | ok build => exact ⟨build.report_eq _ _, build.generation_eq _ _⟩

/-- A call that has come to its end on its way agrees with every load that comes to the same. -/
theorem Stage.OnTrack.agrees {fs : FileSystem} {path : Path} {call : Nat} {published : List Cycle}
    {listings : Listings} {answer : Except CatalogFault LoadReport} {service : Service}
    {result : Except CatalogFault LoadReport × Service}
    (htrack : (returned answer).OnTrack fs path call published listings)
    (hresult : Service.ComesTo service (plainBuild fs path) result) :
    Agrees published call answer result := by
  unfold Agrees
  rw [hresult.answer, hresult.published]
  rcases htrack with ⟨fault, hbuild, rfl⟩ | ⟨cycle, hcycle, hcall, hbuild, rfl⟩
  · rw [hbuild]
    rfl
  · rw [hbuild]
    exact ⟨cycle, hcycle, hcall, rfl, cycle.build.report_eq _ _, cycle.build.generation_eq _ _⟩

/-- A call that finds the gate free agrees with every load that comes to what its path should be
loaded to, if it is a reload or what is remembered of its content tree is real, and if the files
stay as they are until it has returned. -/
theorem Run.agrees {system taken after : System} {log : List Event} {call : Nat} {fresh : Bool}
    {path : Path} {answer : Except CatalogFault LoadReport} {service : Service}
    {result : Except CatalogFault LoadReport × Service}
    (htaken : Step system (.advanced call (.arriving fresh path)) taken)
    (hfree : system.service.loading = false) (hwf : system.files.WellFormed)
    (hholds : fresh = false → system.service.listings.Holds (RealWithin system.files path))
    (hrun : Run taken log after) (hkept : ∀ files, .changed files ∉ log)
    (hanswer : after.calls[call]? = some (.returned answer))
    (hresult : Service.ComesTo service (plainBuild system.files path) result) :
    Agrees (cycles log) call answer result := by
  obtain ⟨-, hcall, hservice⟩ := htaken.of_advanced
  have hfiles : taken.files = system.files := by cases htaken; rfl
  simp only [Stage.next, Service.enter?, hfree, Bool.false_eq_true, if_false] at hcall hservice
  -- A reload is on its way before it has forgotten anything, a load if the memory is real.
  have htrack : Stage.OnTrack system.files path call [] taken.service.listings
      (if fresh = true then .forgetting path else .numbering path) := by
    rw [hservice]
    cases fresh with
    | false => exact ⟨rfl, hholds rfl⟩
    | true => exact rfl
  obtain ⟨last, hlast, hdone⟩ := hrun.onTrack hkept hfiles hwf hcall htrack
  rw [hanswer, Option.some.injEq] at hlast
  subst hlast
  exact hdone.agrees hresult

/-- A reload is always fresh. Whatever a service remembers, a reload that finds the gate free comes
to what a new service would load, be it carried out in one go or step by step among other calls and
sweeps, as long as the files stay as they are meanwhile. What it forgets are the listings of its
root and of the directories below it. -/
theorem Service.reload_fresh {files : FileSystem} (hwf : files.WellFormed) (path : Path) (ttl : Nat)
    (options : CacheOptions) (hosted : Bool) :
    let first := (Service.start ttl options hosted).load files path
    (∀ service : Service, service.loading = false →
      SameLoad (service.reload files path) first) ∧
    (∀ system call taken log after answer, system.files = files →
      system.service.loading = false →
        Step system (.advanced call (.arriving true path)) taken → Run taken log after →
          (∀ changed, .changed changed ∉ log) →
            after.calls[call]? = some (.returned answer) →
              Agrees (cycles log) call answer first) ∧
    ∀ root, files.canonicalize path = .ok root → ∀ service stored,
      stored ∈ ((Stage.forgetting path).next files service).2.listings.entries ↔
        stored ∈ service.listings.atAccess ∧ ¬root.names <+: stored.1.names := by
  have hfirst := load_start_comesTo files path ttl options hosted
  refine ⟨fun service hfree => ?_, ?_, fun root hroot service stored => ?_⟩
  · exact (reload_comesTo hwf path hfree).sameLoad hfirst
  · rintro system call taken log after answer rfl hfree htaken hrun hkept hanswer
    exact Run.agrees htaken hfree hwf (by simp) hrun hkept hanswer hfirst
  · exact Stage.mem_forgetting_iff (Service.resolve_eq_ok.mpr hroot) service stored

/-- A service that remembers an entry which is not there any more reloads the directory as a new
service loads it. -/
theorem Service.reload_fresh_of_stale :
    let files : FileSystem := ⟨.directory true [("docs", .directory true [])], .top⟩
    let stale : Listing := [⟨"gone.yaml", .file⟩]
    let new := Service.start 1000 ⟨4, none, none⟩ false
    let service := { new with
      listings := (Listings.access (.set ⟨["docs"]⟩ stale none) new.listings).2 }
    SameLoad (service.reload files ⟨"/docs"⟩) (new.load files ⟨"/docs"⟩) :=
  (Service.reload_fresh
    ⟨.directory true (by decide) (by decide) (by
        simp only [List.mem_singleton, forall_eq]
        exact .directory true .nil (by simp) (by simp)),
      Location.isProper_top⟩
    ⟨"/docs"⟩ 1000 ⟨4, none, none⟩ false).1 _ rfl

/-- Nothing but real listings is remembered as long as the files stay as they are. -/
theorem Run.holds_realWithin {files : FileSystem} {ttl : Nat} {options : CacheOptions}
    {hosted : Bool} {log : List Event} {system : System}
    (hrun : Run (.start files ttl options hosted) log system)
    (hkept : ∀ changed, .changed changed ∉ log) (path : Path) :
    system.files = files ∧ system.service.listings.Holds (RealWithin files path) :=
  ⟨hrun.files_eq hkept,
    hrun.holds (Listings.holds_start options hosted) (files.reads_realWithin path)
      fun changed hmem => absurd hmem (hkept changed)⟩

theorem Service.load_eq_of_resolve {fs : FileSystem} {path other : Path}
    (hsame : resolve fs path = resolve fs other) {root : Location}
    (hroot : resolve fs path = .ok root) (service : Service) :
    service.load fs path = service.load fs other ∧
      service.reload fs path = service.reload fs other := by
  have hcycle : ∀ entered : Service, entered.cycle fs path = entered.cycle fs other := by
    intro entered
    simp only [cycle, build, ← hsame, hroot]
  have hfresh : ∀ entered : Service, entered.freshCycle fs path = entered.freshCycle fs other := by
    intro entered
    simp only [freshCycle, ← hsame, hroot]
  simp only [load, reload, alone, hcycle, hfresh, and_self]

/-- Remembering listings makes no difference as long as the files stay as they are. Whatever has
been loaded before, however much time has passed, and whatever had to make room: every load and
every reload comes to what a new service would load, be it carried out in one go or step by step;
and it does not matter by which path a directory is reached. -/
theorem Run.load_transparent {files : FileSystem} {ttl : Nat} {options : CacheOptions}
    {hosted : Bool} {log : List Event} {system : System}
    (hrun : Run (.start files ttl options hosted) log system) (hwf : files.WellFormed)
    (hkept : ∀ changed, .changed changed ∉ log) (anew : Nat) (others : CacheOptions)
    (elsewhere : Bool) :
    (system.service.loading = false → ∀ path,
      let first := (Service.start anew others elsewhere).load files path
      SameLoad (system.service.load files path) first ∧
        SameLoad (system.service.reload files path) first ∧
          ∀ call fresh taken more after answer,
            Step system (.advanced call (.arriving fresh path)) taken → Run taken more after →
              (∀ changed, .changed changed ∉ more) →
                after.calls[call]? = some (.returned answer) →
                  Agrees (cycles more) call answer first) ∧
    ∀ path other root, files.canonicalize path = .ok root →
      files.canonicalize other = .ok root → ∀ service : Service,
        service.load files path = service.load files other ∧
          service.reload files path = service.reload files other := by
  refine ⟨fun hfree path => ?_, fun path other root hpath hother service => ?_⟩
  · have hfirst := Service.load_start_comesTo files path anew others elsewhere
    obtain ⟨rfl, hholds⟩ := hrun.holds_realWithin hkept path
    refine ⟨(Service.load_comesTo hfree hholds).sameLoad hfirst,
      (Service.reload_comesTo hwf path hfree).sameLoad hfirst, ?_⟩
    intro call fresh taken more after answer htaken hmore hstill hanswer
    exact Run.agrees htaken hfree hwf (fun _ => hholds) hmore hstill hanswer hfirst
  · have hroot := Service.resolve_eq_ok.mpr hpath
    have hsame := hroot.trans (Service.resolve_eq_ok.mpr hother).symm
    exact Service.load_eq_of_resolve hsame hroot service

/-- A service that has loaded the directory around a directory loads this one and a link to it as a
new service does, and publishes the item that is defined there. -/
theorem load_transparent_of_link :
    let text : String := "id: x\ntemplate: hello"
    let files : FileSystem := ⟨.directory true
      [("docs", .directory true [("a.yaml", .file true text.toUTF8)]), ("link", .link ⟨"docs"⟩)],
      .top⟩
    let new := Service.start 1000 ⟨4, none, none⟩ false
    let service := (new.load files ⟨"/"⟩).2
    service.loading = false ∧
      SameLoad (service.load files ⟨"/docs"⟩) (new.load files ⟨"/docs"⟩) ∧
        service.load files ⟨"/docs"⟩ = service.load files ⟨"/link"⟩ ∧
          ∃ item, (service.load files ⟨"/link"⟩).2.published.items = [item] ∧ item.id = "x" := by
  intro text files new service
  have hwf : files.WellFormed := by
    refine ⟨.directory true (by decide) (by decide) ?_, Location.isProper_top⟩
    simp only [List.forall_mem_cons]
    refine ⟨.directory true (by decide) (by decide) ?_, .link _, by simp⟩
    exact List.forall_mem_singleton.mpr (.file true _)
  obtain ⟨log, hown, hrun⟩ := Run.perform files new [] (.load ⟨"/"⟩)
  have hkept : ∀ changed, .changed changed ∉ Event.called (.load ⟨"/"⟩) :: log := by
    intro changed hmem
    rcases List.mem_cons.mp hmem with hcalled | hmem
    · cases hcalled
    · obtain ⟨_, hadvanced⟩ := hown _ hmem
      cases hadvanced
  have hdocs : files.canonicalize (Location.path ⟨["docs"]⟩) = .ok ⟨["docs"]⟩ :=
    FileSystem.canonicalize_path (by decide) (by simp) ⟨_, rfl, by simp⟩ (by decide)
  -- The path of the link is followed part by part.
  have hsizes : "docs".utf8ByteSize = 4 ∧ "link".utf8ByteSize = 4 ∧ "/link".utf8ByteSize = 5 := by
    decide
  have hparts : Path.parts ⟨"/link"⟩ = ["", "link"] ∧ Path.parts ⟨"docs"⟩ = ["docs"] := by decide
  have hlink : files.canonicalize ⟨"/link"⟩ = .ok ⟨["docs"]⟩ := by
    simp [files, FileSystem.canonicalize, FileSystem.walk, FileSystem.node?, Tree.at?,
      List.lookup_cons, Location.top, Location.child, Path.isAbsolute, nameLimit, pathLimit,
      linkLimit, hparts, hsizes]
  have hfree : service.loading = false := rfl
  obtain ⟨hloads, hsame⟩ := Run.load_transparent hrun hwf hkept 1000 ⟨4, none, none⟩ false
  have hpath : Location.path ⟨["docs"]⟩ = ⟨"/docs"⟩ := by decide
  have hequal : service.load files ⟨"/docs"⟩ = service.load files ⟨"/link"⟩ :=
    (hsame ⟨"/docs"⟩ ⟨"/link"⟩ _ (hpath ▸ hdocs) hlink service).1
  -- What the service remembers is real, so what it publishes is what the document defines.
  obtain ⟨added, hitems, hid⟩ : ∃ item,
      (service.load files ⟨"/docs"⟩).2.published.items = [item] ∧ (item.id == "x") = true := by
    have hread := FileSystem.readDirectory_path hdocs rfl
    have hlisting := FileSystem.listing_of_files hread (by simp [isHiddenName]) (by simp)
    have hbuild := plainBuild_of_scan hdocs hread (Scan.run_scan_of_document hlisting)
    have htext : files.readText (Location.path ⟨["docs", "a.yaml"]⟩) = .ok text :=
      FileSystem.readText_path (by decide) (by simp) (by decide) rfl
    have hpublished := (Service.load_comesTo hfree
      (hrun.holds_realWithin hkept (Location.path ⟨["docs"]⟩)).2).published
    rw [hbuild] at hpublished
    rw [← hpath, hpublished]
    refine @Build.exists_item_of_single files (.ofDocument ⟨["docs"]⟩) _ rfl (·.id == "x") ?_ _
    show ((readItem files ⟨["docs", "a.yaml"]⟩).toOption.any _) = true
    rw [readItem, htext]
    decide +kernel
  exact ⟨hfree, (hloads hfree ⟨"/docs"⟩).1, hequal, added, hequal ▸ hitems, eq_of_beq hid⟩

end TemplateCatalog
