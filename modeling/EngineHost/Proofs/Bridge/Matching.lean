import EngineHost.Proofs.Bridge.Fleet
import EngineHost.Proofs.Storage.Matching

/-!
# Bridges that match

Two bridges match when their storages do, the same descriptors are open and what is under them
matches.  The storages may be different ones, and the paths that the bridges remember need not be
the same texts: what they are to have in common is up to the case.

* `BridgeOp.reply` : all that the caller of an operation gets to see.
* `Bridge.Alike` : what two bridges have in common that match.
* `BridgeOp.reply_alike` : operations that match get the same reply and leave matching bridges over
  matching storages, and so does a bridge that goes (`Bridge.dispose_alike`).
* `Bridge.perform_mapped` : where handles match one by one, a bridge may be carried to the other
  storage.
* `Fleet.Alike.run` : fleets that match still do after steps that match.

The proof follows the code: each step of an operation goes alike on both sides
(`Bridge.AttemptAlike`), and what is done one after the other does.
-/

namespace EngineHost

variable {σ τ α β : Type} {S : Storage σ} {T : Storage τ}

namespace BridgeOp

/-- Performs an operation; answers its status and, for a read, the buffer as it is afterwards. -/
def reply : BridgeOp → BridgeM S (Int × List UInt8)
  | read fd buffer offset => Bridge.read fd buffer offset
  | op => fun w => (((op.perform w).1, []), (op.perform w).2)

/-- The status of a reply is what the operation answers, and it does the same. -/
theorem perform_eq_reply (op : BridgeOp) (w : Bridge S × σ) :
    op.perform w = ((op.reply w).1.1, (op.reply w).2) := by
  cases op <;> rfl

end BridgeOp

/-- Two paths are read alike: they have the same names, and their texts match. -/
def ReadAlike (P : String → String → Prop) (path path' : String) : Prop :=
  Option.Rel (fun p q => p.parents = q.parents ∧ p.fileName = q.fileName ∧
    P p.normalized q.normalized) (StoragePath.parse path) (StoragePath.parse path')

/-- A path is read like itself. -/
theorem ReadAlike.refl {P : String → String → Prop} (hP : ∀ path, P path path) (path : String) :
    ReadAlike P path path := by
  unfold ReadAlike
  cases StoragePath.parse path with
  | none => exact .none
  | some p => exact .some ⟨rfl, rfl, hP _⟩

variable (M : S.Match T) (P : String → String → Prop)

/-- Open files match: their handles do, and the paths they were opened by. -/
structure OpenFile.Alike (x : OpenFile S) (y : OpenFile T) : Prop where
  handle : M.Access x.handle y.handle
  path : P x.path y.path

namespace Bridge

/-- Bridges match: the same descriptors are open, with matching files. -/
structure Alike (b : Bridge S) (c : Bridge T) : Prop where
  root : Option.Rel M.Directory b.root c.root
  probed : b.probed = c.probed
  files : List.Forall₂ (fun f g => f.1 = g.1 ∧ OpenFile.Alike M P f.2 g.2) b.files c.files
  nextFd : b.nextFd = c.nextFd

/-- Bridges match, and so do their storages. -/
def WorldAlike (w : Bridge S × σ) (v : Bridge T × τ) : Prop := Alike M P w.1 v.1 ∧ M.State w.2 v.2

/-- Two attempts go alike when an error on one side has the status of the one on the other. -/
abbrev AttemptAlike (V : α → β → Prop) (x : BridgeAttempt S α) (y : BridgeAttempt T β) : Prop :=
  GoAlike (fun e e' => e.status = e'.status) V (WorldAlike M P) x y

variable {M P} {b : Bridge S} {c : Bridge T} {s : σ} {t : τ} {V : α → β → Prop}

theorem Alike.new : Alike M P (new : Bridge S) (new : Bridge T) :=
  ⟨.none, rfl, .nil, rfl⟩

/-- The open files of a descriptor match. -/
theorem Alike.file? (h : Alike M P b c) (fd : Int) :
    Option.Rel (OpenFile.Alike M P) (b.file? fd) (c.file? fd) := by
  unfold Bridge.file?
  have hfiles := h.files
  generalize b.files = fs at hfiles ⊢
  generalize c.files = gs at hfiles ⊢
  induction hfiles with
  | nil => exact .none
  | @cons f g fs gs hfile _ ih =>
    obtain ⟨fd', file⟩ := f
    obtain ⟨fd'', file'⟩ := g
    obtain ⟨rfl, hfile⟩ := hfile
    rw [List.lookup_cons, List.lookup_cons]
    cases fd == fd' with
    | true => exact .some hfile
    | false => exact ih

theorem Alike.entered (h : Alike M P b c) {x : OpenFile S} {y : OpenFile T}
    (hfile : OpenFile.Alike M P x y) : Alike M P (b.entered x) (c.entered y) where
  root := h.root
  probed := h.probed
  files := .cons ⟨h.nextFd, hfile⟩ h.files
  nextFd := congrArg (· + 1) h.nextFd

theorem Alike.left (h : Alike M P b c) (fd : Int) : Alike M P (b.left fd) (c.left fd) where
  root := h.root
  probed := h.probed
  files := List.rel_filter (fun {f g} hfg => by simp [hfg.1]) h.files
  nextFd := h.nextFd

/-! ### Steps -/

theorem callWith_alike {cause cause' : StorageError → VfsError}
    (hcause : ∀ e, (cause e).status = (cause' e).status) {x : StorageM σ α} {y : StorageM τ β}
    (h : GoAlike Eq V M.State x y) :
    AttemptAlike M P V (callWith cause x) (callWith cause' y) := by
  rintro ⟨b, s⟩ ⟨c, t⟩ ⟨hb, hst⟩
  have hends := h s t hst
  simp only [callWith]
  generalize x s = r at hends ⊢
  generalize y t = r' at hends ⊢
  cases hends with
  | ok hab hst' => exact .ok hab ⟨hb, hst'⟩
  | error he hst' =>
    subst he
    exact .error (hcause _) ⟨hb, hst'⟩

theorem call_alike (op : IoOp) {x : StorageM σ α} {y : StorageM τ β}
    (h : GoAlike Eq V M.State x y) : AttemptAlike M P V (call op x) (call op y) :=
  callWith_alike (fun _ => rfl) h

theorem requireRoot_alike : AttemptAlike M P M.Directory requireRoot requireRoot := by
  rintro ⟨b, s⟩ ⟨c, t⟩ ⟨hb, hst⟩
  simp only [requireRoot]
  have hroot := hb.root
  generalize b.root = r at hroot ⊢
  generalize c.root = r' at hroot ⊢
  cases hroot with
  | none => exact .error rfl ⟨hb, hst⟩
  | some h => exact .ok h ⟨hb, hst⟩

theorem requireFile_alike (fd : Int) :
    AttemptAlike M P (OpenFile.Alike M P) (requireFile fd) (requireFile fd) := by
  rintro ⟨b, s⟩ ⟨c, t⟩ ⟨hb, hst⟩
  simp only [requireFile]
  have hfile := hb.file? fd
  generalize b.file? fd = r at hfile ⊢
  generalize c.file? fd = r' at hfile ⊢
  cases hfile with
  | none => exact .error rfl ⟨hb, hst⟩
  | some h => exact .ok h ⟨hb, hst⟩

theorem lookupParent_alike {root : S.Directory} {root' : T.Directory} (h : M.Directory root root')
    {p q : StoragePath} (hparents : p.parents = q.parents) :
    AttemptAlike M P (Option.Rel M.Directory) (attempt (lookupParent root p))
      (attempt (lookupParent root' q)) := by
  rintro ⟨b, s⟩ ⟨c, t⟩ ⟨hb, hst⟩
  have hends := M.walk false p.parents h s t hst
  rw [hparents] at hends
  simp only [attempt, lookupParent, hparents]
  generalize S.walk false root q.parents s = r at hends ⊢
  generalize T.walk false root' q.parents t = r' at hends ⊢
  cases hends with
  | ok hd hst' => exact .ok (.some hd) ⟨hb, hst'⟩
  | error he hst' => exact .ok .none ⟨hb, hst'⟩

theorem holding_alike {h : S.Access} {h' : T.Access} (hh : M.Access h h') {x : BridgeAttempt S α}
    {y : BridgeAttempt T β} (hx : AttemptAlike M P V x y) :
    AttemptAlike M P V (holding h x) (holding h' y) := by
  intro w v hw
  have hends := hx w v hw
  simp only [holding]
  generalize x w = r at hends ⊢
  generalize y v = r' at hends ⊢
  cases hends with
  | ok hab hw' => exact .ok hab hw'
  | error he hw' => exact .error he ⟨hw'.1, M.release hh hw'.2⟩

theorem enter_alike {x : OpenFile S} {y : OpenFile T} (h : OpenFile.Alike M P x y) :
    AttemptAlike M P Eq (enter x) (enter y) := by
  rintro ⟨b, s⟩ ⟨c, t⟩ ⟨hb, hst⟩
  have hnext : b.nextFd = c.nextFd := hb.nextFd
  simp only [enter]
  by_cases hfd : c.nextFd < lastFd
  · rw [if_pos (hnext ▸ hfd), if_pos hfd]
    exact .ok hnext ⟨hb.entered h, hst⟩
  · rw [if_neg (hnext ▸ hfd), if_neg hfd]
    exact .error rfl ⟨hb, hst⟩

/-- What an operation answers is the same when its attempts go alike. -/
theorem answer_alike {x : BridgeAttempt S α} {y : BridgeAttempt T β} (h : AttemptAlike M P V x y)
    {value : α → Int} {value' : β → Int} (hvalue : ∀ {a b}, V a b → value a = value' b)
    {w : Bridge S × σ} {v : Bridge T × τ} (hw : WorldAlike M P w v) :
    (answer x value w).1 = (answer y value' v).1 ∧
      WorldAlike M P (answer x value w).2 (answer y value' v).2 := by
  have hends := h w v hw
  simp only [answer]
  generalize x w = r at hends ⊢
  generalize y v = r' at hends ⊢
  cases hends with
  | ok hab hw' => exact ⟨hvalue hab, hw'⟩
  | error he hw' => exact ⟨he, hw'⟩

/-! ### Operations -/

theorem prepare_alike {h : S.Access} {h' : T.Access} (hh : M.Access h h') (flags : OpenFlags) :
    AttemptAlike M P Eq (prepare h flags) (prepare h' flags) := by
  have hsize : AttemptAlike M P Eq (do let _ ← call .openFile (S.size h); Pure.pure ())
      (do let _ ← call .openFile (T.size h'); Pure.pure ()) :=
    (call_alike .openFile (M.size hh)).bind fun _ => .pure rfl
  unfold prepare
  split_ifs
  · refine (call_alike .openFile (M.truncate 0 hh)).bind fun _ => ?_
    exact (call_alike .openFile (M.flush hh)).bind fun _ => hsize
  · exact hsize

variable {path path' : String}

theorem locate_alike (h : ReadAlike P path path') (flags : OpenFlags) :
    AttemptAlike M P (fun x y => M.File x.1 y.1 ∧ P x.2 y.2) (locate path flags)
      (locate path' flags) := by
  refine requireRoot_alike.bind fun hroot => ?_
  unfold ReadAlike at h
  generalize StoragePath.parse path = r at h ⊢
  generalize StoragePath.parse path' = r' at h ⊢
  cases h with
  | none => exact .throw rfl
  | @some p q h =>
    obtain ⟨hparents, hname, hnormalized⟩ := h
    dsimp only
    rw [hparents, hname]
    refine (call_alike .openFile (M.walk true q.parents hroot)).bind fun hparent => ?_
    refine (callWith_alike ?_ (M.file q.fileName _ hparent)).bind fun hfile => ?_
    · intro e
      cases e <;> rfl
    · exact .pure ⟨hfile, hnormalized⟩

theorem tryOpen_alike (h : ReadAlike P path path') (flags : OpenFlags) :
    AttemptAlike M P Eq (tryOpen path flags) (tryOpen path' flags) := by
  refine (locate_alike h flags).bind fun hfile => ?_
  refine (call_alike .openFile (M.acquire hfile.1)).bind fun hh => ?_
  refine holding_alike hh ?_
  exact (prepare_alike hh flags).bind fun _ => enter_alike ⟨hh, hfile.2⟩

/-- What is done at the entry of a path goes alike when it does so in matching directories. -/
theorem entry_alike {a : α} {x : S.Directory → StoragePath → BridgeAttempt S α}
    {y : T.Directory → StoragePath → BridgeAttempt T α} {unread : BridgeAttempt S α}
    {unread' : BridgeAttempt T α} (h : ReadAlike P path path')
    (hunread : AttemptAlike M P Eq unread unread')
    (hentry : ∀ {d d' p q}, M.Directory d d' → p.fileName = q.fileName →
      AttemptAlike M P Eq (x d p) (y d' q)) :
    AttemptAlike M P Eq (do
      let root ← requireRoot
      let some p := StoragePath.parse path | unread
      let some parent ← attempt (lookupParent root p) | Pure.pure a
      x parent p) (do
      let root ← requireRoot
      let some p := StoragePath.parse path' | unread'
      let some parent ← attempt (lookupParent root p) | Pure.pure a
      y parent p) := by
  refine requireRoot_alike.bind fun hroot => ?_
  unfold ReadAlike at h
  generalize StoragePath.parse path = r at h ⊢
  generalize StoragePath.parse path' = r' at h ⊢
  cases h with
  | none => exact hunread
  | some h =>
    refine (lookupParent_alike hroot h.1).bind fun hparent => ?_
    cases hparent with
    | none => exact .pure rfl
    | some hd => exact hentry hd h.2.1

theorem tryDelete_alike (h : ReadAlike P path path') :
    AttemptAlike M P Eq (tryDelete path) (tryDelete path') := by
  refine entry_alike h (.throw rfl) fun {d d' p q} hd hname => ?_
  rintro ⟨b, s⟩ ⟨c, t⟩ ⟨hb, hst⟩
  have hends := M.remove q.fileName hd s t hst
  rw [hname]
  dsimp only
  generalize S.remove d q.fileName s = r at hends ⊢
  generalize T.remove d' q.fileName t = r' at hends ⊢
  cases hends with
  | ok _ hst' => exact .ok rfl ⟨hb, hst'⟩
  | @error e _ _ _ he hst' =>
    subst he
    cases e with
    | notFound => exact .ok rfl ⟨hb, hst'⟩
    | _ => exact .error rfl ⟨hb, hst'⟩

theorem tryAccess_alike (h : ReadAlike P path path') :
    AttemptAlike M P Eq (tryAccess path) (tryAccess path') := by
  refine entry_alike h (.pure rfl) fun {d d' p q} hd hname => ?_
  rintro ⟨b, s⟩ ⟨c, t⟩ ⟨hb, hst⟩
  have hends := M.file q.fileName false hd s t hst
  rw [hname]
  dsimp only
  generalize S.file d q.fileName false s = r at hends ⊢
  generalize T.file d' q.fileName false t = r' at hends ⊢
  cases hends with
  | ok _ hst' => exact .ok rfl ⟨hb, hst'⟩
  | @error e _ _ _ he hst' =>
    subst he
    cases e with
    | notFound => exact .ok rfl ⟨hb, hst'⟩
    | _ => exact .error rfl ⟨hb, hst'⟩

variable {w : Bridge S × σ} {v : Bridge T × τ}

theorem probe_alike (h : WorldAlike M P w v) :
    (probe w).1 = (probe v).1 ∧ WorldAlike M P (probe w).2 (probe v).2 := by
  obtain ⟨b, s⟩ := w
  obtain ⟨c, t⟩ := v
  obtain ⟨hb, hst⟩ := h
  have hprobed : b.probed = c.probed := hb.probed
  have hends := M.root s t hst
  simp only [probe, hprobed]
  split_ifs
  · refine ⟨?_, hb, hst⟩
    have hroot := hb.root
    simp only [isAvailable]
    generalize b.root = r at hroot ⊢
    generalize c.root = r' at hroot ⊢
    cases hroot <;> rfl
  · generalize S.root s = r at hends ⊢
    generalize T.root t = r' at hends ⊢
    cases hends with
    | ok hd hst' => exact ⟨rfl, ⟨.some hd, rfl, hb.files, hb.nextFd⟩, hst'⟩
    | error he hst' => exact ⟨rfl, ⟨hb.root, rfl, hb.files, hb.nextFd⟩, hst'⟩

theorem closeFile_alike (fd : Int) (h : WorldAlike M P w v) :
    (closeFile fd w).1 = (closeFile fd v).1 ∧
      WorldAlike M P (closeFile fd w).2 (closeFile fd v).2 := by
  obtain ⟨b, s⟩ := w
  obtain ⟨c, t⟩ := v
  obtain ⟨hb, hst⟩ := h
  have hfile := hb.file? fd
  simp only [closeFile]
  generalize b.file? fd = r at hfile ⊢
  generalize c.file? fd = r' at hfile ⊢
  cases hfile with
  | none => exact ⟨rfl, hb, hst⟩
  | some hxy =>
    obtain ⟨hresult, hclosed, hleft⟩ := M.close hxy.handle hst
    exact ⟨by simp only [hresult], hb.left fd, M.release hclosed hleft⟩

theorem read_alike (fd : Int) (buffer : List UInt8) (offset : UInt64) (h : WorldAlike M P w v) :
    (read fd buffer offset w).1 = (read fd buffer offset v).1 ∧
      WorldAlike M P (read fd buffer offset w).2 (read fd buffer offset v).2 := by
  have hchunk : AttemptAlike M P Eq (do
      let file ← requireFile fd
      call .read (S.read file.handle buffer.length offset)) (do
      let file ← requireFile fd
      call .read (T.read file.handle buffer.length offset)) :=
    (requireFile_alike fd).bind fun hfile => call_alike .read (M.read _ _ hfile.handle)
  have hends := hchunk w v h
  unfold Bridge.read
  dsimp only
  generalize (requireFile fd >>= fun file =>
    call .read (S.read file.handle buffer.length offset) : BridgeAttempt S Chunk) w = r at hends ⊢
  generalize (requireFile fd >>= fun file =>
    call .read (T.read file.handle buffer.length offset) : BridgeAttempt T Chunk) v = r' at hends ⊢
  cases hends with
  | ok hab hw' => exact ⟨by rw [hab], hw'⟩
  | error he hw' => exact ⟨Prod.ext he rfl, hw'⟩

/-- Bridges that match leave matching storages when they go. -/
theorem dispose_alike (h : Alike M P b c) (hst : M.State s t) :
    M.State (b.dispose s) (c.dispose t) := by
  have hfiles := h.files
  unfold dispose
  generalize b.files = fs at hfiles ⊢
  generalize c.files = gs at hfiles ⊢
  induction hfiles generalizing s t with
  | nil => exact hst
  | cons hfile _ ih => exact ih (M.giveUp hfile.2.handle hst)

end Bridge

namespace BridgeOp

open Bridge

/-- Operations match: they are the same, but that their paths are read alike. -/
inductive Alike : BridgeOp → BridgeOp → Prop
  | openFile {path path' : String} (flags : Int32) : ReadAlike P path path' →
      Alike (.openFile path flags) (.openFile path' flags)
  | delete {path path' : String} : ReadAlike P path path' → Alike (.delete path) (.delete path')
  | access {path path' : String} : ReadAlike P path path' → Alike (.access path) (.access path')
  | same {op : BridgeOp} : op.path? = none → Alike op op

variable {M P} {w : Bridge S × σ} {v : Bridge T × τ}

/-- An operation matches itself. -/
theorem Alike.refl (hP : ∀ path, P path path) (op : BridgeOp) : Alike P op op := by
  cases op with
  | openFile path flags => exact .openFile flags (.refl hP path)
  | delete path => exact .delete (.refl hP path)
  | access path => exact .access (.refl hP path)
  | _ => exact .same rfl

/-- **Operations that match get the same reply**, and they leave bridges that match over storages
that match. -/
theorem reply_alike {op op' : BridgeOp} (hop : Alike P op op') (h : WorldAlike M P w v) :
    (op.reply w).1 = (op'.reply v).1 ∧ WorldAlike M P (op.reply w).2 (op'.reply v).2 := by
  -- but for a read, the reply is an answer without a buffer
  have hanswer : ∀ {x : BridgeM S Int} {y : BridgeM T Int},
      ((x w).1 = (y v).1 ∧ WorldAlike M P (x w).2 (y v).2) →
      ((x w).1, ([] : List UInt8)) = ((y v).1, []) ∧ WorldAlike M P (x w).2 (y v).2 :=
    fun h => ⟨Prod.ext h.1 rfl, h.2⟩
  cases hop with
  | openFile flags hpath => exact hanswer (answer_alike (tryOpen_alike hpath _) id h)
  | delete hpath => exact hanswer (answer_alike (tryDelete_alike hpath) (fun _ => rfl) h)
  | access hpath =>
    exact hanswer (answer_alike (tryAccess_alike hpath) (fun hfound => by rw [hfound]) h)
  | same hpath =>
    cases op with
    | openFile | delete | access => cases hpath
    | probe =>
      obtain ⟨havailable, hw⟩ := probe_alike h
      refine ⟨?_, hw⟩
      change (if (Bridge.probe w).1 then (1 : Int) else 0, _) =
        (if (Bridge.probe v).1 then (1 : Int) else 0, _)
      rw [havailable]
    | closeFile fd => exact hanswer (closeFile_alike fd h)
    | read fd buffer offset => exact read_alike fd buffer offset h
    | write fd data offset =>
      refine hanswer (answer_alike ((requireFile_alike fd).bind fun hfile => ?_)
        (fun hn => congrArg _ hn) h)
      refine (call_alike .write (M.write data offset hfile.handle)).bind fun hn => ?_
      exact (call_alike .write (M.flush hfile.handle)).bind fun _ => .pure hn
    | truncate fd size =>
      refine hanswer (answer_alike (V := Eq) ((requireFile_alike fd).bind fun hfile => ?_)
        (fun _ => rfl) h)
      refine (call_alike .truncate (M.truncate size hfile.handle)).bind fun _ => ?_
      exact call_alike .truncate (M.flush hfile.handle)
    | sync fd =>
      refine hanswer (answer_alike (V := Eq) ((requireFile_alike fd).bind fun hfile => ?_)
        (fun _ => rfl) h)
      exact call_alike .sync (M.flush hfile.handle)
    | fileSize fd =>
      refine hanswer (answer_alike ((requireFile_alike fd).bind fun hfile => ?_)
        (fun hn => congrArg _ hn) h)
      exact call_alike .fileSize (M.size hfile.handle)
    | lock fd level => exact hanswer (answer_alike (requireFile_alike fd) (fun _ => rfl) h)
    | unlock fd level => exact hanswer (answer_alike (requireFile_alike fd) (fun _ => rfl) h)

end BridgeOp

/-! ### Handles turned into others -/

namespace Bridge

/-- A bridge over another storage, its handles turned into those of that storage. -/
def mapped (f : S.Directory → T.Directory) (g : S.Access → T.Access) (b : Bridge S) : Bridge T where
  root := b.root.map f
  probed := b.probed
  files := b.files.map fun x => (x.1, ⟨g x.2.handle, x.2.path⟩)
  nextFd := b.nextFd

variable {M} {b : Bridge S} {c : Bridge T} {f : S.Directory → T.Directory} {g : S.Access → T.Access}

/-- Where every handle matches one other only, so does a bridge. -/
theorem alike_iff_mapped (hd : ∀ {d d'}, M.Directory d d' ↔ d' = f d)
    (hh : ∀ {h h'}, M.Access h h' ↔ h' = g h) : Alike M Eq b c ↔ c = b.mapped f g := by
  constructor
  · intro halike
    obtain ⟨root, probed, files, nextFd⟩ := b
    obtain ⟨root', probed', files', nextFd'⟩ := c
    obtain ⟨hroot, rfl, hfiles, rfl⟩ := halike
    have hroot' : root' = root.map f := by
      change Option.Rel M.Directory root root' at hroot
      cases hroot with
      | none => rfl
      | some h => exact congrArg some (hd.1 h)
    have hfiles' : files' = files.map fun x => (x.1, ⟨g x.2.handle, x.2.path⟩) := by
      clear hroot
      change List.Forall₂ _ files files' at hfiles
      induction hfiles with
      | nil => rfl
      | @cons x y xs ys hxy _ ih =>
        obtain ⟨fd, handle, path⟩ := y
        obtain ⟨rfl, hhandle, rfl⟩ := hxy
        rw [ih, show handle = g x.2.handle from hh.1 hhandle]
        rfl
    rw [hroot', hfiles']
    rfl
  · rintro rfl
    refine ⟨?_, rfl, ?_, rfl⟩
    · change Option.Rel M.Directory b.root (b.root.map f)
      cases b.root with
      | none => exact .none
      | some d => exact .some (hd.2 rfl)
    · rw [mapped, List.forall₂_map_right_iff]
      exact List.forall₂_same.2 fun x _ => ⟨rfl, hh.2 rfl, rfl⟩

/-- An operation does the same on the handles of the other storage. -/
theorem perform_mapped (hd : ∀ {d d'}, M.Directory d d' ↔ d' = f d)
    (hh : ∀ {h h'}, M.Access h h' ↔ h' = g h) (op : BridgeOp) (b : Bridge S) {s : σ} {t : τ}
    (hst : M.State s t) :
    let r := op.perform (b, s)
    let r' := op.perform (b.mapped f g, t)
    r'.1 = r.1 ∧ r'.2.1 = r.2.1.mapped f g ∧ M.State r.2.2 r'.2.2 := by
  intro r r'
  obtain ⟨hreply, hleft, hstate⟩ := BridgeOp.reply_alike (M := M) (w := (b, s))
    (v := (b.mapped f g, t)) (.refl (fun _ => rfl) op) ⟨(alike_iff_mapped hd hh).2 rfl, hst⟩
  simp only [r, r', op.perform_eq_reply]
  exact ⟨congrArg Prod.fst hreply.symm, (alike_iff_mapped hd hh).1 hleft, hstate⟩

end Bridge

/-! ### Fleets -/

/-- Steps match: they are the same, but that the paths of their operations are read alike. -/
inductive FleetOp.Alike : FleetOp → FleetOp → Prop
  | create (k : Nat) : Alike (.create k) (.create k)
  | drop (k : Nat) : Alike (.drop k) (.drop k)
  | act (k : Nat) {op op' : BridgeOp} : op.Alike P op' → Alike (.act k op) (.act k op')

namespace Fleet

open Bridge

/-- What the caller of a step gets to see, if there is a bridge to make it. -/
def told (f : Fleet S) : FleetOp → Option (Int × List UInt8)
  | .act k op => (f.act k op.reply).map Prod.fst
  | _ => none

/-- Fleets match: in each place there are bridges that match, or none. -/
structure Alike (f : Fleet S) (g : Fleet T) : Prop where
  bridges (k : Nat) : Option.Rel (Bridge.Alike M P) (f.bridges k) (g.bridges k)
  store : M.State f.store g.store

variable {M P} {f : Fleet S} {g : Fleet T} {k : Nat}

theorem Alike.start {s : σ} {t : τ} (hst : M.State s t) :
    Alike M P (start s : Fleet S) (start t : Fleet T) :=
  ⟨fun _ => .none, hst⟩

theorem Alike.put (h : Alike M P f g) (k : Nat) {w : Bridge S × σ} {v : Bridge T × τ}
    (hw : WorldAlike M P w v) : Alike M P (f.put k w.1 w.2) (g.put k v.1 v.2) where
  bridges j := by
    simp only [Fleet.put, Function.update_apply]
    split_ifs
    · exact .some hw.1
    · exact h.bridges j
  store := hw.2

/-- A place of both fleets is empty, or bridges that match are in it. -/
theorem Alike.bridge (h : Alike M P f g) (k : Nat) :
    (f.bridges k = none ∧ g.bridges k = none) ∨
      ∃ b c, f.bridges k = some b ∧ g.bridges k = some c ∧ Bridge.Alike M P b c := by
  have hbridge := h.bridges k
  generalize f.bridges k = b at hbridge ⊢
  generalize g.bridges k = c at hbridge ⊢
  cases hbridge with
  | none => exact .inl ⟨rfl, rfl⟩
  | some hbc => exact .inr ⟨_, _, rfl, rfl, hbc⟩

theorem Alike.drop (h : Alike M P f g) (k : Nat) : Alike M P (f.drop k) (g.drop k) := by
  unfold Fleet.drop
  rcases h.bridge k with ⟨hb, hc⟩ | ⟨b, c, hb, hc, hbc⟩
  · rwa [hb, hc]
  · rw [hb, hc]
    refine ⟨fun j => ?_, dispose_alike hbc h.store⟩
    simp only [Function.update_apply]
    split_ifs
    · exact .none
    · exact h.bridges j

/-- Fleets that match answer steps that match in the same way. -/
theorem Alike.told_eq (h : Alike M P f g) {op op' : FleetOp} (hop : op.Alike P op') :
    f.told op = g.told op' := by
  cases hop with
  | create | drop => rfl
  | act k hop =>
    simp only [told, Fleet.act]
    rcases h.bridge k with ⟨hb, hc⟩ | ⟨b, c, hb, hc, hbc⟩
    · rw [hb, hc]
      rfl
    · rw [hb, hc]
      exact congrArg some (BridgeOp.reply_alike hop ⟨hbc, h.store⟩).1

/-- **Fleets that match still do after steps that match.** -/
theorem Alike.step (h : Alike M P f g) {op op' : FleetOp} (hop : op.Alike P op') :
    Alike M P (f.step op) (g.step op') := by
  cases hop with
  | create k => exact (h.drop k).put k (w := (.new, _)) (v := (.new, _)) ⟨.new, (h.drop k).store⟩
  | drop k => exact h.drop k
  | @act k op op' hop =>
    rcases h.bridge k with ⟨hb, hc⟩ | ⟨b, c, hb, hc, hbc⟩
    · rwa [step_act_none hb, step_act_none hc]
    · rw [step_act hb, step_act hc, op.perform_eq_reply, op'.perform_eq_reply]
      exact h.put k (BridgeOp.reply_alike hop ⟨hbc, h.store⟩).2

theorem Alike.run (h : Alike M P f g) {ops ops' : List FleetOp}
    (hops : List.Forall₂ (FleetOp.Alike P) ops ops') : Alike M P (f.run ops) (g.run ops') := by
  induction hops generalizing f g with
  | nil => exact h
  | cons hop _ ih => exact ih (h.step hop)

end Fleet

end EngineHost
