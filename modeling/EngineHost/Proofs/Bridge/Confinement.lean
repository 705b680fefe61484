import EngineHost.Proofs.Bridge.Entry
import EngineHost.Proofs.Bridge.Matching
import EngineHost.Proofs.Disk.Confinement
import EngineHost.Proofs.Text.Segments

/-!
# Paths of a guest stay below the root

A guest may open, delete and ask for any text as a path.  What the bridge then does on the disk is
noted down, step by step, by a storage that is otherwise the same (`Bridge.perform_watched`).

* `Bridge.noted_perform` : all of it goes below the root, along the segments of the path.
* `Bridge.perform_confined` : so no step leaves the root, none goes by a segment that is no entry
  name, and none goes further than the first `..`, whoever answers the steps.

The proof follows a path to its entry: all three operations walk to the parent and then make one
call on the last name (`Bridge.access_snd`, `Bridge.delete_snd`, `Bridge.locate_snd`), and an open
goes on with the file that was found there.
-/

namespace EngineHost

open Bridge DiskProgram
open Storage (Inside)

namespace Bridge

variable {τ : Type} {P : Player τ} {root : String} {b : Bridge (Storage.watched P root)}
  {place : DiskPath} {path : String} {flags : OpenFlags}

/-- The paths that a path given to a bridge may lead to. -/
def Reaches (b : Bridge (Storage.watched P root)) (path : String) (q : DiskPath) : Prop :=
  ∃ place, b.root = some place ∧ Inside place (segments path.toList) q

/-- What is done at the entry of a path is done inside the root. -/
theorem noted_entry {α : Type} {p : StoragePath} {post : DiskPath → α → Prop}
    {x : DiskPath → StorageM (τ × List DiskStep) α} (hb : b.root = some place)
    (hp : StoragePath.parse path = some p) (create : Bool)
    (hx : ∀ d, Confines (Child d p.fileName) (post d) (x d)) :
    Confines (b.Reaches path)
      (fun a => (∀ name ∈ p.parents, isEntryName name = true) ∧ post (place ++ p.parents) a)
      ((Storage.watched P root).walk create place p.parents >>= x) := by
  refine (Storage.confines_entry create p.parents p.fileName place hx).mono (fun h => ?_) id
  rw [← (StoragePath.parse_eq_some_iff.1 hp).1] at h
  exact ⟨place, hb, h⟩

variable {p : StoragePath}

/-- Finding a file stays inside the root, and the file that is found lies there. -/
theorem noted_locate (hb : b.root = some place) (hp : StoragePath.parse path = some p)
    (flags : OpenFlags) (w : τ × List DiskStep) :
    Noted (b.Reaches path) w (stateAfter (locate path flags (b, w))).2 ∧
      ∀ x w', locate path flags (b, w) = .ok x w' → b.Reaches path x.1 := by
  have hfile : ∀ d, Confines (Child d p.fileName) (Child d p.fileName)
      ((Storage.watched P root).file d p.fileName (flags.has .create)) :=
    fun d => (confined_file d p.fileName _).confines
  obtain ⟨hnoted, hanswer⟩ := noted_entry hb hp true hfile w
  refine ⟨by rw [locate_snd hb hp]; exact hnoted, fun x w' hl => ?_⟩
  obtain ⟨_, _, d, w₁, w₂, hroot, hparse, hwalk, hfound, -, rfl⟩ := locate_ok_iff.1 hl
  obtain rfl := Option.some.inj (hb.symm.trans hroot)
  obtain rfl := Option.some.inj (hp.symm.trans hparse)
  obtain ⟨hparents, hchild⟩ := hanswer x.1 w₂ (attempt_bind_ok_iff.2 ⟨d, w₁, hwalk, hfound⟩)
  refine ⟨place, hb, ?_⟩
  rw [(StoragePath.parse_eq_some_iff.1 hp).1]
  exact Storage.inside_of_child p.parents hchild hparents

/-- Giving a handle up goes to no path but its own. -/
theorem noted_release {ok : DiskPath → Prop} {h : DiskAccess} (hok : ok h.path)
    (w : τ × List DiskStep) : Noted ok w ((Storage.watched P root).release h w) := by
  obtain ⟨hnoted, -⟩ := Program.Confined.play (P := P) (confined_close h) w
  exact hnoted.mono fun hpath => hpath ▸ hok

/-- Opening stays inside the root, however it ends. -/
theorem noted_openFile (hb : b.root = some place) (hp : StoragePath.parse path = some p)
    (flags : Int32) (w : τ × List DiskStep) :
    Noted (b.Reaches path) w (openFile path flags (b, w)).2.2 := by
  let S := Storage.watched P root
  let ok := b.Reaches path
  have hlocate : ∀ {r}, locate path (.ofWord flags) (b, w) = r → Noted ok w (stateAfter r).2 := by
    rintro _ rfl
    exact (noted_locate hb hp _ w).1
  have hfound : ∀ {x w₁}, locate path (.ofWord flags) (b, w) = .ok x (b, w₁) → ok x.1 :=
    fun hl => (noted_locate hb hp _ w).2 _ _ hl
  have hacquire : ∀ {f w₁ r}, ok f → S.acquire f w₁ = r → Noted ok w₁ (stateAfter r) ∧
      ∀ h w₂, r = .ok h w₂ → ok (DiskAccess.path h) := by
    rintro f w₁ _ hf rfl
    obtain ⟨hnoted, hpath⟩ := (confined_acquire f).confines (P := P) w₁
    exact ⟨hnoted.mono fun h => h ▸ hf, fun h w₂ ha => hpath h w₂ ha ▸ hf⟩
  have hprepare : ∀ {h w₂ r}, prepare (S := S) h (.ofWord flags) (b, w₂) = r →
      Noted ok w₂ (stateAfter r).2 := by
    rintro h w₂ _ rfl
    exact (prepare_moves (fun h size w => ((confined_truncate h size).confines w).1)
      (fun h w => ((confined_flush h).confines w).1)
      (fun h w => ((confined_size h).confines w).1) h _ (b, w₂)).2
  have hrelease : ∀ {h w₃}, ok (DiskAccess.path h) → Noted ok w₃ (S.release h w₃) :=
    fun hok => noted_release hok _
  have hopened := tryOpen_opened path (.ofWord flags) b w
  unfold openFile
  rw [answer_snd]
  generalize tryOpen path (.ofWord flags) (b, w) = r at hopened
  cases hopened with
  | lost hl => exact hlocate hl
  | refused hl ha => exact trans_of (Noted ok) (hlocate hl) (hacquire (hfound hl) ha).1
  | unprepared hl ha hprep | exhausted hl ha hprep =>
    obtain ⟨hnoted, hhandle⟩ := hacquire (hfound hl) ha
    have hheld := trans_of (Noted ok) (hlocate hl) (trans_of (Noted ok) hnoted (hprepare hprep))
    exact trans_of (Noted ok) hheld (hrelease (hhandle _ _ rfl))
  | entered hl ha hprep =>
    obtain ⟨hnoted, -⟩ := hacquire (hfound hl) ha
    exact trans_of (Noted ok) (hlocate hl) (trans_of (Noted ok) hnoted (hprepare hprep))

/-- **What is done for a path stays inside the root.** -/
theorem noted_perform {op : BridgeOp} (hop : op.path? = some path)
    (b : Bridge (Storage.watched P root)) (w : τ × List DiskStep) :
    Noted (b.Reaches path) w (op.perform (b, w)).2.2 := by
  by_cases hunread : b.root = none ∨ StoragePath.parse path = none
  · rw [perform_of_unread hop hunread]
    exact Std.Refl.refl w
  · obtain ⟨hroot, hparse⟩ := not_or.1 hunread
    obtain ⟨place, hb⟩ := Option.ne_none_iff_exists'.1 hroot
    obtain ⟨p, hp⟩ := Option.ne_none_iff_exists'.1 hparse
    cases op with
    | openFile _ flags =>
      cases hop
      exact noted_openFile hb hp flags w
    | delete =>
      cases hop
      rw [BridgeOp.perform, delete_snd hb hp]
      exact (noted_entry hb hp false (fun d => (confined_remove d p.fileName).confines) w).1
    | access =>
      cases hop
      rw [BridgeOp.perform, access_snd hb hp]
      exact (noted_entry hb hp false (fun d => (confined_file d p.fileName false).confines) w).1
    | _ => cases hop

/-! ### Watching -/

/-- A bridge, its storage with the steps on the disk noted down. -/
def watched (b : Bridge (Storage.played P root)) : Bridge (Storage.watched P root) where
  root := b.root
  probed := b.probed
  files := b.files.map fun f => (f.1, ⟨f.2.handle, f.2.path⟩)
  nextFd := b.nextFd

/-- The handles are the same ones. -/
theorem watched_eq_mapped (b : Bridge (Storage.played P root)) :
    b.watched = b.mapped (S := Storage.played P root) (T := Storage.watched P root) id id := by
  obtain ⟨place, _, _, _⟩ := b
  cases place <;> rfl

/-- An operation does the same with its steps noted down. -/
theorem perform_watched (op : BridgeOp) (b : Bridge (Storage.played P root)) (m : τ)
    (steps : List DiskStep) :
    let r := op.perform (b, m)
    let r' := op.perform (b.watched, (m, steps))
    r'.1 = r.1 ∧ r'.2.1 = r.2.1.watched ∧ r'.2.2.1 = r.2.2 := by
  intro r r'
  simp only [r, r', watched_eq_mapped]
  obtain ⟨hanswer, hleft, hstate⟩ := perform_mapped (M := Storage.watching P root)
    (f := id) (g := id) eq_comm eq_comm op b (s := m) (t := (m, steps)) rfl
  exact ⟨hanswer, hleft, hstate.symm⟩

/-! ### Confinement -/

/-- **What a guest gives as a path leads nowhere but below the root.**  Opening, deleting and asking
for a path, the bridge goes on the disk and in the table of held files to paths only that are the
root followed by names.  There is at least one name, they are the first segments of the path in
their order, each of them can name an entry, and none of them comes after a `..`.  The root is what
the disk answered that the directory of the storage is without links back up.  All this holds
whatever the steps are answered, and noting them down changes neither the answer nor the bridge nor
the state of who answers. -/
theorem perform_confined (P : Player τ) (root : String) (b : Bridge (Storage.played P root)) (m : τ)
    (op : BridgeOp) :
    let r := op.perform (b, m)
    let r' := op.perform (b.watched, (m, []))
    (r'.1 = r.1 ∧ r'.2.1 = r.2.1.watched ∧ r'.2.2.1 = r.2.2) ∧
    (∀ path, op.path? = some path → ∀ step ∈ r'.2.2.2, step.Within fun q =>
      ∃ place front : DiskPath, b.root = some place ∧ q = place ++ front ∧ front ≠ [] ∧
        front <+: segments path.toList ∧
        (∀ name ∈ front, name ≠ "" ∧ name ≠ "." ∧ name ≠ ".." ∧
          '/' ∉ name.toList ∧ '\\' ∉ name.toList ∧ '\x00' ∉ name.toList) ∧
        ∀ before after, segments path.toList = before ++ ".." :: after → front <+: before) ∧
    (∀ place, r.2.1.root = some place →
      b.root = some place ∨ ∃ m', (P.system (.canonical root) m').1 = .ok place) ∧
    Storage.played .onSystem root = Storage.onDisk root := by
  intro r r'
  refine ⟨perform_watched op b m [], fun path hop step hstep => ?_, fun place hplace => ?_,
    Storage.played_onSystem root⟩
  · obtain ⟨steps, hsteps, hwithin⟩ := noted_perform hop b.watched (m, [])
    have hmem : step ∈ steps := by
      change r'.2.2.2 = [] ++ steps at hsteps
      rwa [hsteps, List.nil_append] at hstep
    refine (hwithin step hmem).mono fun hq => ?_
    obtain ⟨place, hplace, front, hne, hfront, hnames, rfl⟩ := hq
    exact ⟨place, front, hplace, rfl, hne, hfront,
      fun name hname => isEntryName_iff.1 (hnames name hname),
      fun before after hdots => prefix_before hfront hdots hnames⟩
  · let Answered : DiskPath → Prop := fun place =>
      b.root = some place ∨ ∃ m', (P.system (.canonical root) m').1 = .ok place
    exact op.perform_root (S := Storage.played P root) (P := Answered)
      (fun h => .inr (Storage.played_root_ok h)) .inl hplace

/-- Opening goes down to the first `..` of a path and no further. -/
theorem perform_confined_dots :
    let b : Bridge (Storage.played .onSystem "r") := ⟨some ["w", "r"], true, [], 1⟩
    let disk : Disk := ((Disk.blank ["w"]).makeAll "r").2
    let steps := ((BridgeOp.openFile "d/../f" 1).perform (b.watched, ⟨disk, []⟩, [])).2.2.2
    steps = [.system (.kind ["w", "r", "d"]), .system (.makeDirectory ["w", "r", "d"])] ∧
      ∀ step ∈ steps, step.Within fun q => ∃ front, q = ["w", "r"] ++ front ∧ front <+: ["d"] := by
  intro b disk steps
  have hsegments : segments "d/../f".toList = ["d"] ++ ".." :: ["f"] := by decide +kernel
  obtain ⟨-, hconfined, -⟩ := perform_confined .onSystem "r" b ⟨disk, []⟩ (.openFile "d/../f" 1)
  refine ⟨by decide +kernel, fun step hstep => (hconfined _ rfl step hstep).mono ?_⟩
  rintro q ⟨place, front, hplace, rfl, -, -, -, hdots⟩
  cases hplace
  exact ⟨front, rfl, hdots _ _ hsegments⟩

end Bridge

end EngineHost
