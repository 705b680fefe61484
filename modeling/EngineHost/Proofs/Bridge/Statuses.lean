import EngineHost.Proofs.Bridge.Descriptors

/-!
# What the answers of a bridge mean

An answer is one integer for everything: a descriptor, a count, a size, a yes or no, or that the
operation failed.  Over a storage that may answer anything, the answers of an operation are those
it is meant to give (`BridgeOp.Permits`), and on an open file an answer that is not negative means
that every call made to the storage succeeded.

* `BridgeOp.perform_permits` : the answers of each operation, told by the errors it can fail with
  (`Bridge.FailsWith`).
* `BridgeOp.Served`, `BridgeOp.Failed` : the calls that an operation on an open file makes, when all
  of them succeed and when one fails.
* `BridgeOp.served_or_failed` : it is one or the other, and the sign of the answer tells which.
* `Life.run_statuses` : both for every bridge, whatever it went through.
-/

namespace EngineHost

variable {σ α β : Type} {S : Storage σ}

/-! ### Errors -/

namespace Bridge

/-- Whenever a step fails, its error is one of a set. -/
def FailsWith (Q : VfsError → Prop) (x : BridgeAttempt S α) : Prop :=
  ∀ w e w', x w = .error e w' → Q e

namespace FailsWith

variable {Q : VfsError → Prop} {x : BridgeAttempt S α}

theorem pure (a : α) : FailsWith (S := S) Q (Pure.pure a) := by
  intro w e w' h
  cases h

theorem throw {e : VfsError} (h : Q e) : FailsWith (S := S) (α := α) Q (MonadExcept.throw e) := by
  rintro w e' w' ⟨⟩
  exact h

theorem bind {f : α → BridgeAttempt S β} (hx : FailsWith Q x) (hf : ∀ a, FailsWith Q (f a)) :
    FailsWith Q (x >>= f) := by
  intro w e w' h
  rcases attempt_bind_error_iff.1 h with h | ⟨a, w₁, -, h⟩
  · exact hx _ _ _ h
  · exact hf a _ _ _ h

theorem callWith {cause : StorageError → VfsError} (h : ∀ e, Q (cause e)) (x : StorageM σ α) :
    FailsWith (S := S) Q (callWith cause x) := by
  rintro ⟨b, s⟩ e w' hx
  simp only [Bridge.callWith] at hx
  cases hr : x s with
  | ok a s' =>
    rw [hr] at hx
    cases hx
  | error e' s' =>
    rw [hr] at hx
    cases hx
    exact h e'

theorem call {op : IoOp} (h : ∀ e, Q (.storage op e)) (x : StorageM σ α) :
    FailsWith (S := S) Q (call op x) :=
  callWith h x

theorem requireRoot (h : Q .unavailable) : FailsWith (S := S) Q requireRoot := by
  rintro ⟨b, s⟩ e w' hx
  simp only [Bridge.requireRoot] at hx
  cases hr : b.root with
  | some root =>
    rw [hr] at hx
    cases hx
  | none =>
    rw [hr] at hx
    cases hx
    exact h

theorem requireFile {fd : Int} (h : Q (.badDescriptor fd)) :
    FailsWith (S := S) Q (requireFile fd) := by
  rintro ⟨b, s⟩ e w' hx
  simp only [Bridge.requireFile] at hx
  cases hr : b.file? fd with
  | some file =>
    rw [hr] at hx
    cases hx
  | none =>
    rw [hr] at hx
    cases hx
    exact h

theorem attempt (x : BridgeM S α) : FailsWith Q (attempt x) := by
  intro w e w' h
  cases h

/-- Giving a handle up keeps the error. -/
theorem holding (h : S.Access) (hx : FailsWith Q x) : FailsWith Q (holding h x) := by
  intro w e w' hr
  simp only [Bridge.holding] at hr
  cases hw : x w with
  | ok a w₁ =>
    rw [hw] at hr
    cases hr
  | error e' w₁ =>
    rw [hw] at hr
    cases hr
    exact hx _ _ _ hw

theorem enter {file : OpenFile S} (h : Q .descriptorsExhausted) :
    FailsWith Q (enter file) := by
  rintro ⟨b, s⟩ e w' hr
  simp only [Bridge.enter] at hr
  split at hr
  · cases hr
  · cases hr
    exact h

end FailsWith

/-- Opening fails with `-1`, or with `-14` when there is no such file. -/
theorem tryOpen_failsWith (path : String) (flags : OpenFlags) :
    FailsWith (S := S) (fun e => e.status = -1 ∨ e.status = -14) (tryOpen path flags) := by
  have hcall : ∀ e, (VfsError.storage .openFile e).status = -1 ∨
      (VfsError.storage .openFile e).status = -14 := fun e => .inl rfl
  have hlocate : FailsWith (S := S) (fun e => e.status = -1 ∨ e.status = -14)
      (locate path flags) := by
    refine FailsWith.bind (.requireRoot (.inl rfl)) fun root => ?_
    cases StoragePath.parse path with
    | none => exact .throw (.inr rfl)
    | some p =>
      refine FailsWith.bind (.call hcall _) fun parent => ?_
      refine FailsWith.bind (.callWith (fun e => ?_) _) fun file => .pure _
      -- only a missing file is told apart
      cases e with
      | notFound => exact .inr rfl
      | _ => exact .inl rfl
  have hprepare (h : S.Access) : FailsWith (S := S) (fun e => e.status = -1 ∨ e.status = -14)
      (prepare h flags) := by
    have hsize : FailsWith (S := S) (fun e => e.status = -1 ∨ e.status = -14)
        (do let _ ← call .openFile (S.size h); pure ()) :=
      .bind (.call hcall _) fun _ => .pure _
    unfold prepare
    split
    · exact .bind (.call hcall _) fun _ => .bind (.call hcall _) fun _ => hsize
    · exact hsize
  refine FailsWith.bind hlocate fun file => .bind (.call hcall _) fun h => .holding h ?_
  exact .bind (hprepare h) fun _ => .enter (.inl rfl)

theorem tryDelete_failsWith (path : String) :
    FailsWith (S := S) (fun e => e.status = -1 ∨ e.status = -10) (tryDelete path) := by
  refine FailsWith.bind (.requireRoot (.inl rfl)) fun root => ?_
  cases StoragePath.parse path with
  | none => exact .throw (.inl rfl)
  | some p =>
    refine FailsWith.bind (.attempt _) fun parent => ?_
    cases parent with
    | none => exact .pure ()
    | some parent =>
      rintro ⟨b, s⟩ e w' hr
      dsimp only at hr
      split at hr
      · cases hr
      · cases hr
      · cases hr
        exact .inr rfl

theorem tryAccess_failsWith (path : String) :
    FailsWith (S := S) (fun e => e.status = -1) (tryAccess path) := by
  refine FailsWith.bind (.requireRoot rfl) fun root => ?_
  cases StoragePath.parse path with
  | none => exact .pure false
  | some p =>
    refine FailsWith.bind (.attempt _) fun parent => ?_
    cases parent with
    | none => exact .pure false
    | some parent =>
      rintro ⟨b, s⟩ e w' hr
      dsimp only at hr
      split at hr
      · cases hr
      · cases hr
      · cases hr
        rfl

/-- An operation answers a value or the status of an error that it can fail with. -/
theorem FailsWith.answer {Q : VfsError → Prop} {P : Int → Prop} {x : BridgeAttempt S α}
    {value : α → Int} (hx : FailsWith Q x) (hvalue : ∀ a, P (value a))
    (hstatus : ∀ e, Q e → P e.status) (w : Bridge S × σ) : P (answer x value w).1 := by
  cases hr : x w with
  | ok a w' =>
    rw [answer_of_ok hr]
    exact hvalue a
  | error e w' =>
    rw [answer_of_error hr]
    exact hstatus e (hx _ _ _ hr)

end Bridge

namespace BridgeOp

open Bridge

/-- The answers that an operation may give. -/
def Permits : BridgeOp → Int → Prop
  | probe, n => n = 0 ∨ n = 1
  | openFile .., n => 0 < n ∨ n = -1 ∨ n = -14
  | closeFile _, n => n = 0 ∨ n = -1
  | read .., n => 0 ≤ n ∨ n = -1 ∨ n = -10
  | write .., n => 0 ≤ n ∨ n = -1 ∨ n = -10
  | truncate .., n => n = 0 ∨ n = -1 ∨ n = -10
  | sync _, n => n = 0 ∨ n = -1 ∨ n = -10
  | fileSize _, n => 0 ≤ n ∨ n = -1
  | delete _, n => n = 0 ∨ n = -1 ∨ n = -10
  | access _, n => n = 1 ∨ n = 0 ∨ n = -1
  | lock .., n => n = 0 ∨ n = -1
  | unlock .., n => n = 0 ∨ n = -1

/-! ### Operations on an open file -/

/-- Every call that an operation makes on an open file succeeds; what it answers is what they
report, cut to the greatest number there is for it. -/
inductive Served (h : S.Access) : BridgeOp → σ → Int → σ → Prop
  | read {fd : Int} {buffer : List UInt8} {offset : UInt64} {chunk : Chunk} {s s' : σ} :
      S.read h buffer.length offset s = .ok chunk s' →
      Served h (.read fd buffer offset) s (min chunk.count 0x7fffffff) s'
  | write {fd : Int} {data : List UInt8} {offset : UInt64} {n : Nat} {s s₁ s' : σ} :
      S.write h data offset s = .ok n s₁ → S.flush h s₁ = .ok () s' →
      Served h (.write fd data offset) s (min n 0x7fffffff) s'
  | truncate {fd : Int} {size : UInt64} {s s₁ s' : σ} :
      S.truncate h size s = .ok () s₁ → S.flush h s₁ = .ok () s' →
      Served h (.truncate fd size) s 0 s'
  | sync {fd : Int} {s s' : σ} : S.flush h s = .ok () s' → Served h (.sync fd) s 0 s'
  | fileSize {fd : Int} {n : Nat} {s s' : σ} : S.size h s = .ok n s' →
      Served h (.fileSize fd) s (min n 0x7fffffffffffffff) s'

/-- A call that an operation makes on an open file fails with an error, and it is the last one. -/
inductive Failed (h : S.Access) (e : StorageError) : BridgeOp → σ → Int → σ → Prop
  | read {fd : Int} {buffer : List UInt8} {offset : UInt64} {s s' : σ} :
      S.read h buffer.length offset s = .error e s' →
      Failed h e (.read fd buffer offset) s (-10) s'
  | write {fd : Int} {data : List UInt8} {offset : UInt64} {s s' : σ} :
      S.write h data offset s = .error e s' → Failed h e (.write fd data offset) s (-10) s'
  | writeFlush {fd : Int} {data : List UInt8} {offset : UInt64} {n : Nat} {s s₁ s' : σ} :
      S.write h data offset s = .ok n s₁ → S.flush h s₁ = .error e s' →
      Failed h e (.write fd data offset) s (-10) s'
  | truncate {fd : Int} {size : UInt64} {s s' : σ} :
      S.truncate h size s = .error e s' → Failed h e (.truncate fd size) s (-10) s'
  | truncateFlush {fd : Int} {size : UInt64} {s s₁ s' : σ} :
      S.truncate h size s = .ok () s₁ → S.flush h s₁ = .error e s' →
      Failed h e (.truncate fd size) s (-10) s'
  | sync {fd : Int} {s s' : σ} : S.flush h s = .error e s' → Failed h e (.sync fd) s (-10) s'
  | fileSize {fd : Int} {s s' : σ} : S.size h s = .error e s' →
      Failed h e (.fileSize fd) s (-1) s'

/-- The descriptor of an operation that works on the bytes of its file. -/
def bytesOf? : BridgeOp → Option Int
  | read fd _ _ => some fd
  | write fd _ _ => some fd
  | truncate fd _ => some fd
  | sync fd => some fd
  | fileSize fd => some fd
  | _ => none

variable {b : Bridge S} {fd : Int} {file : OpenFile S} {op : BridgeOp}

theorem descriptor?_of_bytesOf? (hop : op.bytesOf? = some fd) : op.descriptor? = some fd := by
  cases op with
  | read | write | truncate | sync | fileSize => exact hop
  | probe | openFile | closeFile | delete | access | lock | unlock => cases hop

theorem Served.nonneg {h : S.Access} {s s' : σ} {n : Int} (hop : Served h op s n s') : 0 ≤ n := by
  cases hop <;> omega

theorem Failed.neg {h : S.Access} {e : StorageError} {s s' : σ} {n : Int}
    (hop : Failed h e op s n s') : n < 0 := by
  cases hop <;> decide

/-- An operation whose calls all succeed has none that failed. -/
theorem Served.not_failed {h : S.Access} {s s' s'' : σ} {n m : Int} {e : StorageError}
    (hserved : Served h op s n s') : ¬ Failed h e op s m s'' := by
  intro hfailed
  cases hserved with
  | read hr =>
    cases hfailed with
    | read hr' => exact absurd (hr.symm.trans hr') nofun
  | write hw hf =>
    cases hfailed with
    | write hw' => exact absurd (hw.symm.trans hw') nofun
    | writeFlush hw' hf' =>
      cases hw.symm.trans hw'
      exact absurd (hf.symm.trans hf') nofun
  | truncate ht hf =>
    cases hfailed with
    | truncate ht' => exact absurd (ht.symm.trans ht') nofun
    | truncateFlush ht' hf' =>
      cases ht.symm.trans ht'
      exact absurd (hf.symm.trans hf') nofun
  | sync hf =>
    cases hfailed with
    | sync hf' => exact absurd (hf.symm.trans hf') nofun
  | fileSize hs =>
    cases hfailed with
    | fileSize hs' => exact absurd (hs.symm.trans hs') nofun

/-- The integer that reading answers. -/
theorem perform_read (fd : Int) (buffer : List UInt8) (offset : UInt64) (w : Bridge S × σ) :
    (read fd buffer offset).perform w =
      answer (do
        let file ← requireFile fd
        call .read (S.read file.handle buffer.length offset))
        (fun chunk => Status.ofCount chunk.count) w := by
  cases hr : (do
      let file ← requireFile fd
      call .read (S.read file.handle buffer.length offset) : BridgeAttempt S Chunk) w with
  | ok chunk w' =>
    rw [answer_of_ok hr]
    simp only [perform, Bridge.read, hr]
  | error e w' =>
    rw [answer_of_error hr]
    simp only [perform, Bridge.read, hr]

theorem call_of_ok {io : IoOp} {x : StorageM σ α} {a : α} {s s' : σ} (h : x s = .ok a s')
    (b : Bridge S) : call io x (b, s) = .ok a (b, s') := by
  simp only [call, callWith, h]

theorem call_of_error {io : IoOp} {x : StorageM σ α} {e : StorageError} {s s' : σ}
    (h : x s = .error e s') (b : Bridge S) :
    call io x (b, s) = .error (.storage io e) (b, s') := by
  simp only [call, callWith, h]

/-- **An operation on an open file serves it or fails.** -/
theorem served_or_failed (hfd : b.file? fd = some file) (hop : op.bytesOf? = some fd) (s : σ) :
    ∃ n s', op.perform (b, s) = (n, b, s') ∧
      (Served file.handle op s n s' ∨ ∃ e, Failed file.handle e op s n s') := by
  have hrequire : requireFile fd (b, s) = .ok file (b, s) := by simp only [requireFile, hfd]
  cases op with
  | probe | openFile | closeFile | delete | access | lock | unlock => cases hop
  | read fd buffer offset =>
    cases hop
    rw [perform_read, answer, attempt_bind_of_ok hrequire]
    cases hr : S.read file.handle buffer.length offset s with
    | ok chunk s' =>
      rw [call_of_ok hr]
      exact ⟨_, s', rfl, .inl (.read hr)⟩
    | error e s' =>
      rw [call_of_error hr]
      exact ⟨-10, s', rfl, .inr ⟨e, .read hr⟩⟩
  | write fd data offset =>
    cases hop
    rw [perform, Bridge.write, answer, attempt_bind_of_ok hrequire]
    cases hw : S.write file.handle data offset s with
    | error e s' =>
      rw [attempt_bind_of_error (call_of_error hw b)]
      exact ⟨-10, s', rfl, .inr ⟨e, .write hw⟩⟩
    | ok n s₁ =>
      rw [attempt_bind_of_ok (call_of_ok hw b)]
      cases hf : S.flush file.handle s₁ with
      | ok u s' =>
        rw [attempt_bind_of_ok (call_of_ok hf b)]
        exact ⟨_, s', rfl, .inl (.write hw hf)⟩
      | error e s' =>
        rw [attempt_bind_of_error (call_of_error hf b)]
        exact ⟨-10, s', rfl, .inr ⟨e, .writeFlush hw hf⟩⟩
  | truncate fd size =>
    cases hop
    rw [perform, Bridge.truncate, answer, attempt_bind_of_ok hrequire]
    cases ht : S.truncate file.handle size s with
    | error e s' =>
      rw [attempt_bind_of_error (call_of_error ht b)]
      exact ⟨-10, s', rfl, .inr ⟨e, .truncate ht⟩⟩
    | ok u s₁ =>
      rw [attempt_bind_of_ok (call_of_ok ht b)]
      cases hf : S.flush file.handle s₁ with
      | ok u' s' =>
        rw [call_of_ok hf]
        exact ⟨0, s', rfl, .inl (.truncate ht hf)⟩
      | error e s' =>
        rw [call_of_error hf]
        exact ⟨-10, s', rfl, .inr ⟨e, .truncateFlush ht hf⟩⟩
  | sync fd =>
    cases hop
    rw [perform, Bridge.sync, answer, attempt_bind_of_ok hrequire]
    cases hf : S.flush file.handle s with
    | ok u s' =>
      rw [call_of_ok hf]
      exact ⟨0, s', rfl, .inl (.sync hf)⟩
    | error e s' =>
      rw [call_of_error hf]
      exact ⟨-10, s', rfl, .inr ⟨e, .sync hf⟩⟩
  | fileSize fd =>
    cases hop
    rw [perform, Bridge.fileSize, answer, attempt_bind_of_ok hrequire]
    cases hs : S.size file.handle s with
    | ok n s' =>
      rw [call_of_ok hs]
      exact ⟨_, s', rfl, .inl (.fileSize hs)⟩
    | error e s' =>
      rw [call_of_error hs]
      exact ⟨-1, s', rfl, .inr ⟨e, .fileSize hs⟩⟩

theorem Served.permits {h : S.Access} {s s' : σ} {n : Int} (hop : Served h op s n s') :
    op.Permits n := by
  cases hop with
  | read | write | fileSize => exact .inl (by omega)
  | truncate | sync => exact .inl rfl

theorem Failed.permits {h : S.Access} {e : StorageError} {s s' : σ} {n : Int}
    (hop : Failed h e op s n s') : op.Permits n := by
  cases hop with
  | fileSize => exact .inr rfl
  | _ => exact .inr (.inr rfl)

/-- A descriptor that is not open answers nothing else either. -/
theorem permits_of_unopened (hop : op.descriptor? = some fd) : op.Permits (-1) := by
  cases op with
  | probe | openFile | delete | access => cases hop
  | closeFile | lock | unlock | fileSize => exact .inr rfl
  | read | write | truncate | sync => exact .inr (.inl rfl)

theorem perform_permits_of_bytesOf (hop : op.bytesOf? = some fd) (b : Bridge S) (s : σ) :
    op.Permits (op.perform (b, s)).1 := by
  cases hfd : b.file? fd with
  | some file =>
    obtain ⟨n, s', hperform, hend⟩ := served_or_failed hfd hop s
    rw [hperform]
    exact hend.elim Served.permits fun ⟨e, hfailed⟩ => hfailed.permits
  | none =>
    have hdescriptor := descriptor?_of_bytesOf? hop
    rw [perform_of_none hfd hdescriptor]
    exact permits_of_unopened hdescriptor

/-- **An operation answers nothing but what it may**, whatever the storage does. -/
theorem perform_permits (op : BridgeOp) (hb : 0 < b.nextFd) (s : σ) :
    op.Permits (op.perform (b, s)).1 := by
  cases op with
  | probe =>
    show (if (Bridge.probe (b, s)).1 then 1 else 0) = 0 ∨
      (if (Bridge.probe (b, s)).1 then 1 else 0) = 1
    cases (Bridge.probe (b, s)).1 with
    | false => exact .inl rfl
    | true => exact .inr rfl
  | openFile path flags =>
    have hopened := tryOpen_opened path (.ofWord flags) b s
    simp only [perform, Bridge.openFile]
    cases hr : tryOpen path (.ofWord flags) (b, s) with
    | ok fd w =>
      rw [hr] at hopened
      rw [answer_of_ok hr]
      cases hopened
      exact .inl hb
    | error e w =>
      rw [answer_of_error hr]
      exact .inr (tryOpen_failsWith path _ _ _ _ hr)
  | closeFile fd =>
    simp only [perform]
    cases hfd : b.file? fd with
    | none =>
      rw [closeFile_none hfd]
      exact .inr rfl
    | some file => exact closeFile_fst hfd s
  | read | write | truncate | sync | fileSize => exact perform_permits_of_bytesOf rfl b s
  | delete path =>
    exact (tryDelete_failsWith path).answer (fun _ => .inl rfl) (fun e he => .inr he) (b, s)
  | access path =>
    refine (tryAccess_failsWith path).answer (fun found => ?_) (fun e he => .inr (.inr he)) (b, s)
    cases found
    · exact .inr (.inl rfl)
    · exact .inl rfl
  | lock fd level | unlock fd level =>
    have hfails : FailsWith (S := S) (fun e => e.status = -1) (requireFile fd) := .requireFile rfl
    exact hfails.answer (fun _ => .inl rfl) (fun e he => .inr he) (b, s)

end BridgeOp

/-- **Success and failure are never confused**, whatever a storage answers and does, and whatever
the bridge went through.  Every answer is one that its operation may give.  On an open file reading,
writing, truncating, syncing and asking for the length leave the bridge as it is and answer a number
that is not negative just when every call to the storage succeeded; the number is then what was
reported, cut to the greatest count or size there is, and 0 for truncating and syncing. -/
theorem Life.run_statuses (S : Storage σ) (xs : List (BridgeOp × σ)) :
    let b := (start.run xs : Life S).bridge
    (∀ (op : BridgeOp) s, op.Permits (op.perform (b, s)).1) ∧
    ∀ fd file (op : BridgeOp) s, b.file? fd = some file → op.bytesOf? = some fd →
      let r := op.perform (b, s)
      r.2.1 = b ∧ (0 ≤ r.1 ↔ op.Served file.handle s r.1 r.2.2) ∧
        (r.1 < 0 ↔ ∃ e, op.Failed file.handle e s r.1 r.2.2) := by
  intro b
  have hb : b.Numbered := (sound_run xs).numbered
  refine ⟨fun op s => op.perform_permits hb.next_pos s, fun fd file op s hfd hop => ?_⟩
  obtain ⟨n, s', hperform, hend⟩ := BridgeOp.served_or_failed hfd hop s
  intro r
  have hr : r = (n, b, s') := hperform
  rw [hr]
  rcases hend with hserved | hfailed
  · have hn := hserved.nonneg
    refine ⟨rfl, iff_of_true hn hserved, iff_of_false (Int.not_lt.2 hn) ?_⟩
    rintro ⟨e, hfailed⟩
    exact absurd hfailed.neg (Int.not_lt.2 hn)
  · have hn : n < 0 := hfailed.elim fun e h => h.neg
    exact ⟨rfl, iff_of_false (Int.not_le.2 hn) fun h => absurd h.nonneg (Int.not_le.2 hn),
      iff_of_true hn hfailed⟩

end EngineHost
