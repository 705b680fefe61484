import EngineHost.Proofs.Disk.Player
import Mathlib.Tactic.SplitIfs

/-!
# Where programs go on a disk

Steps that are about a path go there.  A program is confined to a set of paths when it goes nowhere
else, whatever its steps are answered; the paths are those of the programs and not of the disk, so
that what links lead to is left out.

* `DiskStep.Within` : a step that goes to the paths of a set only.
* `Program.Confined` : a program all of whose steps do, whatever they are answered.
* `Program.Confined.play` : the steps that are noted down for such a program.
* `Storage.confines_walk` : a walk goes down along its names, and no further than the first of them
  that is no entry name.
* `Storage.confines_entry` : nor does what is done at the entry behind the last name.

The proof follows the programs: each call of the storage is one that goes to the path of its handle,
or to that of one child of it after its name was checked (`DiskProgram.confined_childPath`).
-/

namespace EngineHost

variable {τ α β : Type}

/-! ### Programs -/

/-- A step goes to paths of a set only.  A path that is given as a text may lead anywhere, and an
open file is no path any more. -/
def DiskStep.Within (ok : DiskPath → Prop) : DiskStep → Prop
  | system (.makeAll _) | system (.canonical _) => False
  | system (.kind path) | system (.makeDirectory path) | system (.createFile path)
  | system (.removeDirectory path) | system (.removeFile path) | system (.openFile path _) =>
    ok path
  | system (.tryLock _) | system (.unlock _) | system (.closeFile _) | system (.read ..)
  | system (.write ..) | system (.setLength ..) | system (.sync _) | system (.length _) => True
  | table (.register path) | table (.unregister path) | table (.isRegistered path) => ok path

/-- Whatever its steps are answered, a program goes to paths of a set only, and its answer is one
of a set. -/
def Program.Confined (ok : DiskPath → Prop) (post : α → Prop) : Program α → Prop
  | done a => post a
  | system c next => (DiskStep.system c).Within ok ∧ ∀ r, (next r).Confined ok post
  | table t next => (DiskStep.table t).Within ok ∧ ∀ r, (next r).Confined ok post

/-- Steps that go to paths of a set only were noted down. -/
def Noted (ok : DiskPath → Prop) (w w' : τ × List DiskStep) : Prop :=
  ∃ steps, w'.2 = w.2 ++ steps ∧ ∀ step ∈ steps, step.Within ok

variable {ok ok' : DiskPath → Prop} {post : α → Prop} {post' : β → Prop} {P : Player τ}

theorem DiskStep.Within.mono (h : ∀ {path}, ok path → ok' path) {step : DiskStep}
    (hstep : step.Within ok) : step.Within ok' := by
  cases step with
  | system c => cases c <;> first | exact h hstep | exact hstep
  | table t => cases t <;> exact h hstep

instance : Std.Refl (Noted (τ := τ) ok) := ⟨fun _ => ⟨[], (List.append_nil _).symm, nofun⟩⟩

instance : IsTrans (τ × List DiskStep) (Noted ok) where
  trans := by
    rintro w w' w'' ⟨steps, hw', hsteps⟩ ⟨steps', hw'', hsteps'⟩
    refine ⟨steps ++ steps', by rw [hw'', hw', List.append_assoc], fun step hstep => ?_⟩
    rcases List.mem_append.1 hstep with hstep | hstep
    · exact hsteps step hstep
    · exact hsteps' step hstep

theorem Noted.mono (h : ∀ {path}, ok path → ok' path) {w w' : τ × List DiskStep}
    (hw : Noted ok w w') : Noted ok' w w' := by
  obtain ⟨steps, hw', hsteps⟩ := hw
  exact ⟨steps, hw', fun step hstep => (hsteps step hstep).mono h⟩

theorem Noted.step {step : DiskStep} (h : step.Within ok) (m m' : τ) (steps : List DiskStep) :
    Noted ok (m, steps) (m', steps ++ [step]) := by
  refine ⟨[step], rfl, fun step' hstep' => ?_⟩
  rw [List.mem_singleton.1 hstep']
  exact h

namespace Program

theorem Confined.bind {p : Program α} {f : α → Program β} (hp : p.Confined ok post)
    (hf : ∀ a, post a → (f a).Confined ok post') : (p.bind f).Confined ok post' := by
  induction p with
  | done a => exact hf a hp
  | system c next ih => exact ⟨hp.1, fun r => ih r (hp.2 r)⟩
  | table t next ih => exact ⟨hp.1, fun r => ih r (hp.2 r)⟩

/-- **A confined program keeps to its paths, whatever it is answered.** -/
theorem Confined.play {p : Program α} (hp : p.Confined ok post) (w : τ × List DiskStep) :
    Noted ok w (p.play P.watched w).2 ∧ post (p.play P.watched w).1 := by
  induction p generalizing w with
  | done a => exact ⟨Std.Refl.refl w, hp⟩
  | system c next ih =>
    obtain ⟨m, steps⟩ := w
    obtain ⟨hrest, hanswer⟩ := ih _ (hp.2 (P.system c m).1) ((P.system c m).2, steps ++ [.system c])
    exact ⟨trans_of (Noted ok) (.step hp.1 m _ steps) hrest, hanswer⟩
  | table t next ih =>
    obtain ⟨m, steps⟩ := w
    obtain ⟨hrest, hanswer⟩ := ih _ (hp.2 (P.table t m).1) ((P.table t m).2, steps ++ [.table t])
    exact ⟨trans_of (Noted ok) (.step hp.1 m _ steps) hrest, hanswer⟩

end Program

namespace DiskProgram

/-- A program that may fail is confined when what it answers, if anything, is one of a set. -/
def Confined (ok : DiskPath → Prop) (post : α → Prop) (p : DiskProgram α) : Prop :=
  Program.Confined ok (fun r => ∀ a, r = .ok a → post a) p

theorem Confined.pure {a : α} (h : post a) : Confined ok post (Pure.pure a) := by
  rintro _ ⟨⟩
  exact h

theorem Confined.throw (e : StorageError) :
    Confined ok post (MonadExcept.throw e : DiskProgram α) := nofun

theorem Confined.bind {p : DiskProgram α} {f : α → DiskProgram β} (hp : Confined ok post p)
    (hf : ∀ a, post a → Confined ok post' (f a)) : Confined ok post' (p >>= f) := by
  refine Program.Confined.bind hp fun r hr => ?_
  cases r with
  | ok a => exact hf a (hr a rfl)
  | error e => exact nofun

theorem Confined.lift {p : Program α} (hp : p.Confined ok post) :
    Confined ok post (ExceptT.lift p) := by
  refine Program.Confined.bind hp fun a ha => ?_
  rintro _ ⟨⟩
  exact ha

theorem confined_system {c : SystemCall} (h : (DiskStep.system c).Within ok) :
    Confined ok (fun _ => True) (system c) :=
  .lift ⟨h, fun _ => trivial⟩

theorem confined_table {t : TableStep} (h : (DiskStep.table t).Within ok) :
    Confined ok (fun _ => True) (table t) :=
  .lift ⟨h, fun _ => trivial⟩

theorem confined_call {c : SystemCall} (h : (DiskStep.system c).Within ok) :
    Confined ok (fun _ => True) (call c) := by
  refine (confined_system h).bind fun r _ => ?_
  cases r with
  | ok a => exact .pure trivial
  | error e => exact .throw _

/-- The path of a child that a directory can have. -/
def Child (d : DiskPath) (name : String) (path : DiskPath) : Prop :=
  isEntryName name = true ∧ path = d ++ [name]

theorem confined_childPath (d : DiskPath) (name : String) :
    Confined ok (Child d name) (childPath d name) := by
  unfold childPath checkName
  cases hname : isEntryName name with
  | true => exact .pure ⟨hname, rfl⟩
  | false => exact .throw _

theorem confined_directory (d : DiskPath) (name : String) (create : Bool) :
    Confined (Child d name) (Child d name) (directory d name create) := by
  refine (confined_childPath d name).bind fun path hpath => ?_
  refine Confined.bind (confined_system hpath) fun r _ => ?_
  rcases r with e | kind
  · dsimp only
    split_ifs
    · refine Confined.bind (confined_system hpath) fun r _ => ?_
      rcases r with e | _
      · dsimp only
        split_ifs
        · exact .pure hpath
        · exact .throw _
      · exact .pure hpath
    · exact .throw _
  · cases kind with
    | directory => exact .pure hpath
    | file => exact .throw _

theorem confined_file (d : DiskPath) (name : String) (create : Bool) :
    Confined (Child d name) (Child d name) (file d name create) := by
  refine (confined_childPath d name).bind fun path hpath => ?_
  refine Confined.bind (confined_system hpath) fun r _ => ?_
  rcases r with e | kind
  · dsimp only
    split_ifs
    · exact Confined.bind (confined_call hpath) fun _ _ => .pure hpath
    · exact .throw _
  · cases kind with
    | file => exact .pure hpath
    | directory => exact .throw _

theorem confined_lockOrClose (id : DescriptionId) :
    Confined ok (fun _ => True) (lockOrClose id) := by
  refine Confined.bind (confined_system trivial) fun r _ => ?_
  cases r with
  | ok _ => exact .pure trivial
  | error e => exact Confined.bind (confined_system trivial) fun _ _ => .throw _

theorem confined_remove (d : DiskPath) (name : String) :
    Confined (Child d name) (fun _ => True) (remove d name) := by
  refine (confined_childPath d name).bind fun path hpath => ?_
  refine Confined.bind (confined_call hpath) fun kind _ => ?_
  cases kind with
  | directory => exact confined_call hpath
  | file =>
    refine Confined.bind (confined_table hpath) fun held _ => ?_
    cases held with
    | true => exact .throw _
    | false =>
      refine Confined.bind (confined_call hpath) fun id _ => ?_
      refine (confined_lockOrClose id).bind fun _ _ => ?_
      exact Confined.bind (confined_system trivial) fun _ _ => confined_call hpath

theorem confined_acquire (path : DiskPath) :
    Confined (· = path) (fun h => h.path = path) (acquire path) := by
  refine Confined.bind (confined_table rfl) fun free _ => ?_
  cases free with
  | false => exact .throw _
  | true =>
    have hopen : Confined (· = path) (fun _ => True) (openLocked path) := by
      refine Confined.bind (confined_call rfl) fun id _ => ?_
      exact (confined_lockOrClose id).bind fun _ _ => .pure trivial
    refine Confined.bind (.lift hopen) fun r _ => ?_
    cases r with
    | ok id => exact .pure rfl
    | error e => exact Confined.bind (confined_table rfl) fun _ _ => .throw _

/-- What is done with an open file goes to no path. -/
theorem confined_onFile (h : DiskAccess) {f : DescriptionId → DiskProgram α}
    (hf : ∀ id, Confined ok post (f id)) : Confined ok post (openFile h >>= f) := by
  have hopen : Confined ok (fun _ => True) (openFile h) := by
    unfold openFile
    cases h.file with
    | some id => exact .pure trivial
    | none => exact .throw _
  exact hopen.bind fun id _ => hf id

theorem confined_truncate (h : DiskAccess) (size : UInt64) :
    Confined ok (fun _ => True) (truncate h size) :=
  confined_onFile h fun _ => confined_call trivial

theorem confined_flush (h : DiskAccess) : Confined ok (fun _ => True) (flush h) :=
  confined_onFile h fun _ => confined_call trivial

theorem confined_size (h : DiskAccess) : Confined ok (fun _ => True) (size h) :=
  confined_onFile h fun _ => confined_call trivial

theorem confined_close (h : DiskAccess) :
    Program.Confined (· = h.path) (fun _ => True) (close h) := by
  unfold close
  cases h.file with
  | none => exact trivial
  | some id =>
    exact ⟨trivial, fun _ => ⟨trivial, fun _ => ⟨rfl, fun _ => trivial⟩⟩⟩

end DiskProgram

/-! ### Calls -/

/-- A step goes to paths of a set only, and its answer, if it has one, is one of a set. -/
def Confines (ok : DiskPath → Prop) (post : α → Prop)
    (x : EStateM StorageError (τ × List DiskStep) α) : Prop :=
  ∀ w, Noted ok w (stateAfter (x w)) ∧ ∀ a w', x w = .ok a w' → post a

namespace Confines

variable {x : EStateM StorageError (τ × List DiskStep) α}

theorem pure {a : α} (h : post a) :
    Confines ok post (Pure.pure a : EStateM StorageError (τ × List DiskStep) α) := by
  refine fun w => ⟨Std.Refl.refl w, ?_⟩
  rintro _ _ ⟨⟩
  exact h

theorem mono (h : ∀ {path}, ok path → ok' path) {post' : α → Prop}
    (hpost : ∀ {a}, post a → post' a) (hx : Confines ok post x) : Confines ok' post' x :=
  fun w => ⟨(hx w).1.mono h, fun a w' ha => hpost ((hx w).2 a w' ha)⟩

theorem bind {f : α → EStateM StorageError (τ × List DiskStep) β} (hx : Confines ok post x)
    (hf : ∀ a, post a → Confines ok post' (f a)) : Confines ok post' (x >>= f) := by
  intro w
  obtain ⟨hnoted, hanswer⟩ := hx w
  simp only [Bind.bind, EStateM.bind]
  cases h : x w with
  | error e w' =>
    rw [h] at hnoted
    exact ⟨hnoted, nofun⟩
  | ok a w' =>
    rw [h] at hnoted
    obtain ⟨hrest, hanswer'⟩ := hf a (hanswer a w' h) w'
    exact ⟨trans_of (Noted ok) hnoted hrest, hanswer'⟩

end Confines

/-- A call keeps to the paths of its program. -/
theorem DiskProgram.Confined.confines {p : DiskProgram α} (hp : p.Confined ok post) :
    Confines ok post (p.playedBy P.watched) := by
  intro w
  obtain ⟨hnoted, hanswer⟩ := Program.Confined.play (P := P) hp w
  rw [DiskProgram.playedBy_eq_outcome]
  generalize Program.play P.watched _ w = r at hnoted hanswer ⊢
  obtain ⟨e | a, w'⟩ := r
  · exact ⟨hnoted, nofun⟩
  · refine ⟨hnoted, ?_⟩
    rintro _ _ ⟨⟩
    exact hanswer a rfl

/-! ### Names -/

/-- Names that lead down from a place stop before the first `..`. -/
theorem prefix_before {front before after names : List String} (hfront : front <+: names)
    (hnames : names = before ++ ".." :: after) (hentry : ∀ name ∈ front, isEntryName name = true) :
    front <+: before := by
  have hbefore : before <+: names := ⟨_, hnames.symm⟩
  have hdots : before ++ [".."] <+: names := ⟨after, by rw [hnames, List.append_assoc]; rfl⟩
  by_cases hlen : front.length ≤ before.length
  · exact List.prefix_of_prefix_length_le hfront hbefore hlen
  · have hlong : before ++ [".."] <+: front :=
      List.prefix_of_prefix_length_le hdots hfront (by simp; omega)
    have hmem : ".." ∈ front := hlong.subset (by simp)
    exact absurd (hentry _ hmem) (by decide)

/-- An entry name is a segment of its own, without a separator and without the end of a text. -/
theorem isEntryName_iff {name : String} :
    isEntryName name = true ↔ name ≠ "" ∧ name ≠ "." ∧ name ≠ ".." ∧
      '/' ∉ name.toList ∧ '\\' ∉ name.toList ∧ '\x00' ∉ name.toList := by
  have hzero : ∀ c : Char, c.toNat = 0 ↔ c = '\x00' := by
    intro c
    refine ⟨fun h => Char.toNat_inj.1 h, ?_⟩
    rintro rfl
    rfl
  simp only [isEntryName, Bool.and_eq_true, decide_eq_true_eq, List.all_eq_true, ne_eq, hzero,
    and_assoc]
  constructor
  · rintro ⟨hempty, hdot, hdots, hall⟩
    exact ⟨hempty, hdot, hdots, fun h => (hall _ h).1 rfl, fun h => (hall _ h).2.1 rfl,
      fun h => (hall _ h).2.2 rfl⟩
  · rintro ⟨hempty, hdot, hdots, hslash, hbackslash, hnull⟩
    refine ⟨hempty, hdot, hdots, fun c hc => ⟨?_, ?_, ?_⟩⟩
    · exact fun h => hslash (h ▸ hc)
    · exact fun h => hbackslash (h ▸ hc)
    · exact fun h => hnull (h ▸ hc)

/-! ### Walks -/

namespace Storage

open DiskProgram

/-- The paths that names lead to from a place, down to the first that is no entry name. -/
def Inside (place : DiskPath) (names : List String) (path : DiskPath) : Prop :=
  ∃ front, front ≠ [] ∧ front <+: names ∧ (∀ name ∈ front, isEntryName name = true) ∧
    path = place ++ front

variable {place d path : DiskPath} {name : String} {names : List String} {root : String}

theorem Inside.append (h : Inside place names path) (more : List String) :
    Inside place (names ++ more) path := by
  obtain ⟨front, hne, hfront, hnames, rfl⟩ := h
  exact ⟨front, hne, hfront.trans (List.prefix_append names more), hnames, rfl⟩

theorem inside_of_child (parents : List String) (h : Child (d ++ parents) name path)
    (hparents : ∀ name ∈ parents, isEntryName name = true) :
    Inside d (parents ++ [name]) path := by
  obtain ⟨hname, rfl⟩ := h
  refine ⟨parents ++ [name], by simp, List.prefix_refl _, fun name' hname' => ?_,
    List.append_assoc ..⟩
  rcases List.mem_append.1 hname' with hname' | hname'
  · exact hparents name' hname'
  · rwa [List.mem_singleton.1 hname']

/-- What lies below a child lies below its parent. -/
theorem Inside.below (h : Inside (d ++ [name]) names path) (hname : isEntryName name = true) :
    Inside d (name :: names) path := by
  obtain ⟨front, -, hfront, hnames, rfl⟩ := h
  refine ⟨name :: front, by simp, List.cons_prefix_cons.2 ⟨rfl, hfront⟩, fun name' hname' => ?_,
    by simp⟩
  rcases List.mem_cons.1 hname' with rfl | hname'
  · exact hname
  · exact hnames name' hname'

/-- **A walk goes along its names**, and it ends where all of them lead. -/
theorem confines_walk (create : Bool) (names : List String) (d : DiskPath) :
    Confines (Inside d names)
      (fun d' => d' = d ++ names ∧ ∀ name ∈ names, isEntryName name = true)
      ((watched P root).walk create d names) := by
  induction names generalizing d with
  | nil => exact .pure ⟨(List.append_nil d).symm, nofun⟩
  | cons name rest ih =>
    have hchild : Confines (Inside d (name :: rest)) (Child d name)
        ((watched P root).directory d name create) := by
      refine (confined_directory d name create).confines.mono (fun h => ?_) id
      have hinside : Inside d [name] _ :=
        inside_of_child [] (by rwa [List.append_nil]) (by simp)
      exact hinside.append rest
    refine hchild.bind fun child hchild => ?_
    obtain ⟨hname, rfl⟩ := hchild
    refine (ih (d ++ [name])).mono (fun h => h.below hname) ?_
    rintro _ ⟨rfl, hrest⟩
    refine ⟨by simp, fun name' hname' => ?_⟩
    rcases List.mem_cons.1 hname' with rfl | hname'
    · exact hname
    · exact hrest name' hname'

/-- What is done at the last of a row of names, after a walk along the others. -/
theorem confines_entry (create : Bool) (parents : List String) (leaf : String) (d : DiskPath)
    {post : DiskPath → α → Prop} {x : DiskPath → StorageM (τ × List DiskStep) α}
    (hx : ∀ d', Confines (Child d' leaf) (post d') (x d')) :
    Confines (Inside d (parents ++ [leaf]))
      (fun a => (∀ name ∈ parents, isEntryName name = true) ∧ post (d ++ parents) a)
      ((watched P root).walk create d parents >>= x) := by
  have hwalk : Confines (Inside d (parents ++ [leaf]))
      (fun d' => d' = d ++ parents ∧ ∀ name ∈ parents, isEntryName name = true)
      ((watched P root).walk create d parents) :=
    (confines_walk create parents d).mono (fun h => h.append [leaf]) id
  refine hwalk.bind fun d' hd' => ?_
  obtain ⟨rfl, hparents⟩ := hd'
  exact (hx _).mono (fun hpath => inside_of_child parents hpath hparents) fun h => ⟨hparents, h⟩

end Storage

end EngineHost
