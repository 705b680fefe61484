import EngineHost.Guest.Catalog
import EngineHost.Proofs.Bridge.Statuses
import EngineHost.Proofs.Guest.Read
import EngineHost.Proofs.Text.Utf8

/-!
# The imports are the bridge seen through the memory

Whatever integers a guest gives to an import, the import is either one operation of the bridge on
what stands in the guest's memory, or it is refused and does nothing.  `ImportName.Asks` lists the
first, `ImportName.Refuses` the second, with the answer to what is refused.

* `Guest.Spans`, `Guest.Spells` : the bytes and the path in a stretch of memory.
* `ImportName.asks_or_refuses` : every call is of one kind.
* `BridgeOp.perform_fits` : what the bridge answers fits the word that the guest is given.
* `ImportName.run_bridge` : what an import answers and does.

Reading is told in `EngineHost.Proofs.Guest.Read`: it is the one import that changes the memory.
-/

namespace EngineHost

variable {σ : Type} {S : Storage σ}

/-! ### Words -/

/-- The integer that a value stands for. -/
def Value.integer? : Value → Option Int
  | i32 n => some n.toInt
  | i64 n => some n.toInt
  | _ => none

namespace Value

variable {args : List Value} {types : List ValueType}

theorem integer?_i32 {n : Int} (hlow : -0x80000000 ≤ n) (hhigh : n ≤ 0x7fffffff) :
    (i32 (Int32.ofInt n)).integer? = some n := by
  rw [integer?, Int32.toInt_ofInt_of_le (by omega) (by omega)]

theorem integer?_i64 {n : Int} (hlow : -0x8000000000000000 ≤ n) (hhigh : n ≤ 0x7fffffffffffffff) :
    (i64 (Int64.ofInt n)).integer? = some n := by
  rw [integer?, Int64.toInt_ofInt_of_le (by omega) (by omega)]

theorem map_type_eq_i32_iff :
    args.map type = .i32 :: types ↔ ∃ n rest, args = .i32 n :: rest ∧ rest.map type = types := by
  rw [List.map_eq_cons_iff]
  constructor
  · rintro ⟨value, rest, rfl, htype, hrest⟩
    cases value with
    | i32 n => exact ⟨n, rest, rfl, hrest⟩
    | i64 | f32 | f64 | v128 | externRef | funcRef => cases htype
  · rintro ⟨n, rest, rfl, hrest⟩
    exact ⟨.i32 n, rest, rfl, rfl, hrest⟩

theorem map_type_eq_i64_iff :
    args.map type = .i64 :: types ↔ ∃ n rest, args = .i64 n :: rest ∧ rest.map type = types := by
  rw [List.map_eq_cons_iff]
  constructor
  · rintro ⟨value, rest, rfl, htype, hrest⟩
    cases value with
    | i64 n => exact ⟨n, rest, rfl, hrest⟩
    | i32 | f32 | f64 | v128 | externRef | funcRef => cases htype
  · rintro ⟨n, rest, rfl, hrest⟩
    exact ⟨.i64 n, rest, rfl, rfl, hrest⟩

end Value

/-- An answer is no greater than what a step can find. -/
theorem Bridge.answer_le {α : Type} {x : BridgeAttempt S α} {value : α → Int} {bound : Int}
    (hbound : 0 ≤ bound) (hvalue : ∀ a, value a ≤ bound) (w : Bridge S × σ) :
    (answer x value w).1 ≤ bound := by
  have hfails : FailsWith (fun _ => True) x := fun _ _ _ _ => trivial
  exact hfails.answer (P := fun n => n ≤ bound) hvalue
    (fun e _ => Int.le_trans (Int.le_of_lt e.status_neg) hbound) w

/-- A descriptor is no greater than the last one. -/
theorem Bridge.openFile_le (path : String) (flags : Int32) (b : Bridge S) (s : σ) :
    (openFile path flags (b, s)).1 ≤ 0x7fffffff := by
  have hopened := tryOpen_opened path (.ofWord flags) b s
  unfold openFile
  cases hr : tryOpen path (.ofWord flags) (b, s) with
  | ok fd w =>
    rw [hr] at hopened
    rw [answer_of_ok hr]
    cases hopened with
    | entered _ _ _ hfd => exact Int.le_of_lt hfd
  | error e w =>
    rw [answer_of_error hr]
    have hneg := e.status_neg
    omega

/-- **What the bridge answers fits a word** of 32 bits, and one of 64 bits where it is a length. -/
theorem BridgeOp.perform_fits (op : BridgeOp) {b : Bridge S} (hb : 0 < b.nextFd) (s : σ) :
    let n := (op.perform (b, s)).1
    n ≤ 0x7fffffffffffffff ∧ ((∀ fd, op ≠ .fileSize fd) → n ≤ 0x7fffffff) ∧ -0x80000000 ≤ n := by
  intro n
  have hpermits : op.Permits n := op.perform_permits hb s
  cases op with
  | openFile path flags =>
    have hle : n ≤ 0x7fffffff := Bridge.openFile_le path flags b s
    simp only [Permits] at hpermits
    omega
  | read fd buffer offset =>
    have hle : n ≤ 0x7fffffff := by
      simp only [n, perform_read]
      exact Bridge.answer_le (by decide) (fun chunk => Int.min_le_right _ _) (b, s)
    simp only [Permits] at hpermits
    omega
  | write fd data offset =>
    have hle : n ≤ 0x7fffffff :=
      Bridge.answer_le (by decide) (fun written => Int.min_le_right _ _) (b, s)
    simp only [Permits] at hpermits
    omega
  | fileSize fd =>
    have hle : n ≤ 0x7fffffffffffffff :=
      Bridge.answer_le (by decide) (fun size => Int.min_le_right _ _) (b, s)
    simp only [Permits] at hpermits
    exact ⟨hle, fun h => absurd rfl (h fd), by omega⟩
  | probe | closeFile | truncate | sync | delete | access | lock | unlock =>
    simp only [Permits] at hpermits
    omega

namespace Guest

variable {g : Guest S} {pointer length : Int32} {bytes : List UInt8} {path : String}

/-- An unsigned number is the signed one without its sign. -/
theorem unsigned_eq_emod (n : Int32) : (unsigned n : Int) = n.toInt % 0x100000000 := by
  change (n.toBitVec.toNat : Int) = n.toBitVec.toInt % 0x100000000
  have hlt := n.toBitVec.isLt
  rw [BitVec.toInt_eq_toNat_cond]
  split_ifs <;> omega

theorem offset?_of_toInt {offset : Int64} {start : UInt64}
    (h : (start.toNat : Int) = offset.toInt) :
    offset? offset = some start := by
  have hoffset : 0 ≤ offset := Int64.le_iff_toInt_le.2 (by rw [Int64.toInt_zero]; omega)
  rw [offset?_of_nonneg hoffset, ← UInt64.toNat_inj.1 (_ : offset.toUInt64.toNat = start.toNat)]
  rw [toNat_offset hoffset]
  omega

theorem offset?_of_toInt_neg {offset : Int64} (h : offset.toInt < 0) : offset? offset = none :=
  offset?_of_neg (Int64.lt_iff_toInt_lt.2 h)

/-! ### Stretches of memory -/

/-- The bytes in a stretch of the memory that the imports reach. -/
def Spans (g : Guest S) (pointer length : Int32) (bytes : List UInt8) : Prop :=
  ∃ m, g.Reaches pointer length m ∧
    bytes = (m.data.toList.drop (unsigned pointer)).take (unsigned length)

/-- The bytes in a stretch are those of a path. -/
def Spells (g : Guest S) (pointer length : Int32) (path : String) : Prop :=
  g.Spans pointer length (utf8 path.toList)

theorem Spans.bytesAt (h : g.Spans pointer length bytes) :
    g.bytesAt pointer length = .ok bytes := by
  obtain ⟨m, hm, rfl⟩ := h
  rw [bytesAt_of_reaches hm, Content.slice_eq]

theorem bytesAt_of_not_spans (h : ∀ bytes, ¬ g.Spans pointer length bytes) :
    ∃ e, e ≠ .notUtf8 ∧ g.bytesAt pointer length = .error e :=
  bytesAt_of_not_reaches fun m hm => h _ ⟨m, hm, rfl⟩

theorem Spells.pathAt (h : g.Spells pointer length path) : g.pathAt pointer length = .ok path := by
  simp only [Guest.pathAt, Spans.bytesAt h, fromUTF8?_utf8, String.ofList_toList]

theorem pathAt_of_not_utf8 (h : g.Spans pointer length bytes)
    (hbytes : ∀ path : String, bytes ≠ utf8 path.toList) :
    g.pathAt pointer length = .error .notUtf8 := by
  have hnone : String.fromUTF8? ⟨bytes.toArray⟩ = none :=
    Option.eq_none_iff_forall_ne_some.2 fun path hpath =>
      hbytes path (fromUTF8?_eq_some_iff.1 hpath)
  simp only [Guest.pathAt, h.bytesAt, hnone]

theorem pathAt_of_not_spans (h : ∀ bytes, ¬ g.Spans pointer length bytes) :
    ∃ e, e ≠ .notUtf8 ∧ g.pathAt pointer length = .error e := by
  obtain ⟨e, hne, he⟩ := bytesAt_of_not_spans h
  exact ⟨e, hne, by simp only [Guest.pathAt, he]⟩

/-- A stretch holds a path, or bytes that are none, or it is no stretch. -/
theorem spells_or (g : Guest S) (pointer length : Int32) :
    (∃ path, g.Spells pointer length path) ∨
    (∃ bytes, g.Spans pointer length bytes ∧ ∀ path : String, bytes ≠ utf8 path.toList) ∨
    ∀ bytes, ¬ g.Spans pointer length bytes := by
  by_cases hspans : ∃ bytes, g.Spans pointer length bytes
  · obtain ⟨bytes, hspans⟩ := hspans
    by_cases hpath : ∃ path : String, bytes = utf8 path.toList
    · obtain ⟨path, rfl⟩ := hpath
      exact .inl ⟨path, hspans⟩
    · exact .inr (.inl ⟨bytes, hspans, not_exists.1 hpath⟩)
  · exact .inr (.inr (not_exists.1 hspans))

/-- Whatever is wrong with a stretch that holds no path, there is no path. -/
theorem pathAt_of_not_spells (h : ∀ path, ¬ g.Spells pointer length path) :
    ∃ e, g.pathAt pointer length = .error e := by
  rcases g.spells_or pointer length with ⟨path, hpath⟩ | ⟨bytes, hspans, hbytes⟩ | hnone
  · exact absurd hpath (h path)
  · exact ⟨_, pathAt_of_not_utf8 hspans hbytes⟩
  · obtain ⟨e, -, he⟩ := pathAt_of_not_spans hnone
    exact ⟨e, he⟩

end Guest

/-! ### What is asked and what is refused -/

namespace ImportName

open Guest

variable {g : Guest S} {i : ImportName} {args : List Value} {op : BridgeOp} {n : Int} {s : σ}

/-- A call of an import that is an operation of the bridge, on the bytes or the path that the guest
points to. -/
inductive Asks (g : Guest S) : ImportName → List Value → BridgeOp → Prop
  | openFile {pointer length flags : Int32} {path : String} : g.Spells pointer length path →
      Asks g .openFile [.i32 pointer, .i32 length, .i32 flags] (.openFile path flags)
  | closeFile {fd : Int32} : Asks g .closeFile [.i32 fd] (.closeFile fd.toInt)
  | write {fd pointer length : Int32} {offset : Int64} {start : UInt64} {bytes : List UInt8} :
      (start.toNat : Int) = offset.toInt → g.Spans pointer length bytes →
      Asks g .write [.i32 fd, .i32 pointer, .i32 length, .i64 offset] (.write fd.toInt bytes start)
  | truncate {fd : Int32} {size : Int64} {count : UInt64} : (count.toNat : Int) = size.toInt →
      Asks g .truncate [.i32 fd, .i64 size] (.truncate fd.toInt count)
  | sync {fd : Int32} : Asks g .sync [.i32 fd] (.sync fd.toInt)
  | fileSize {fd : Int32} : Asks g .fileSize [.i32 fd] (.fileSize fd.toInt)
  | delete {pointer length : Int32} {path : String} : g.Spells pointer length path →
      Asks g .delete [.i32 pointer, .i32 length] (.delete path)
  | access {pointer length : Int32} {path : String} : g.Spells pointer length path →
      Asks g .access [.i32 pointer, .i32 length] (.access path)
  | lock {fd level : Int32} : Asks g .lock [.i32 fd, .i32 level] (.lock fd.toInt level)
  | unlock {fd level : Int32} : Asks g .unlock [.i32 fd, .i32 level] (.unlock fd.toInt level)

/-- A call of an import that is refused, and the answer to it.  A negative offset or size is refused
whatever else is given. -/
inductive Refuses (g : Guest S) : ImportName → List Value → Int → Prop
  | negativeOffset {fd pointer length : Int32} {offset : Int64} : offset.toInt < 0 →
      Refuses g .write [.i32 fd, .i32 pointer, .i32 length, .i64 offset] (-10)
  | negativeSize {fd : Int32} {size : Int64} : size.toInt < 0 →
      Refuses g .truncate [.i32 fd, .i64 size] (-10)
  | nothingToWrite {fd pointer length : Int32} {offset : Int64} : 0 ≤ offset.toInt →
      (∀ bytes, ¬ g.Spans pointer length bytes) →
      Refuses g .write [.i32 fd, .i32 pointer, .i32 length, .i64 offset] (-1)
  | nothingToOpen {pointer length flags : Int32} : (∀ bytes, ¬ g.Spans pointer length bytes) →
      Refuses g .openFile [.i32 pointer, .i32 length, .i32 flags] (-1)
  | noPathToOpen {pointer length flags : Int32} {bytes : List UInt8} :
      g.Spans pointer length bytes → (∀ path : String, bytes ≠ utf8 path.toList) →
      Refuses g .openFile [.i32 pointer, .i32 length, .i32 flags] (-14)
  | nothingToDelete {pointer length : Int32} : (∀ path, ¬ g.Spells pointer length path) →
      Refuses g .delete [.i32 pointer, .i32 length] (-1)
  | nothingToAccess {pointer length : Int32} : (∀ path, ¬ g.Spells pointer length path) →
      Refuses g .access [.i32 pointer, .i32 length] (-1)

/-- An import as a guest function is the step of its name. -/
theorem run_of_status {x : GuestM S Int} (h : i.status args = some x) (w : Guest S × σ) :
    (i.function : Function S).run args w = .ok [i.value (x w).1] (x w).2 := by
  simp only [function, h]
  rfl

/-- What is asked is what the bridge does. -/
theorem Asks.run (h : i.Asks g args op) (s : σ) :
    let r := op.perform (g.bridge, s)
    (i.function : Function S).run args (g, s) =
      .ok [i.value r.1] ({ g with bridge := r.2.1 }, r.2.2) := by
  intro r
  -- one step of the guest is to be named in each case; it is then told by what the guest points to
  suffices hstep : ∃ x : GuestM S Int, i.status args = some x ∧
      x (g, s) = onBridge op.perform (g, s) by
    obtain ⟨x, hstatus, hx⟩ := hstep
    rw [run_of_status hstatus, hx]
    rfl
  cases h with
  | openFile hpath => exact ⟨_, rfl, by simp only [Guest.openFile, hpath.pathAt, BridgeOp.perform]⟩
  | write hstart hspans =>
    refine ⟨_, rfl, ?_⟩
    simp only [Guest.write, offset?_of_toInt hstart, hspans.bytesAt, BridgeOp.perform]
  | truncate hcount =>
    exact ⟨_, rfl, by simp only [Guest.truncate, offset?_of_toInt hcount, BridgeOp.perform]⟩
  | delete hpath => exact ⟨_, rfl, by simp only [Guest.delete, hpath.pathAt, BridgeOp.perform]⟩
  | access hpath => exact ⟨_, rfl, by simp only [Guest.access, hpath.pathAt, BridgeOp.perform]⟩
  | closeFile | sync | fileSize | lock | unlock => exact ⟨_, rfl, rfl⟩

/-- What is refused does nothing. -/
theorem Refuses.run (h : i.Refuses g args n) (s : σ) :
    (i.function : Function S).run args (g, s) = .ok [i.value n] (g, s) := by
  suffices hstep : ∃ x : GuestM S Int, i.status args = some x ∧ x (g, s) = (n, g, s) by
    obtain ⟨x, hstatus, hx⟩ := hstep
    rw [run_of_status hstatus, hx]
  cases h with
  | negativeOffset hneg =>
    refine ⟨_, rfl, ?_⟩
    simp only [Guest.write, offset?_of_toInt_neg hneg]
    rfl
  | negativeSize hneg =>
    refine ⟨_, rfl, ?_⟩
    simp only [Guest.truncate, offset?_of_toInt_neg hneg]
    rfl
  | nothingToWrite hoffset hnone =>
    obtain ⟨e, -, he⟩ := bytesAt_of_not_spans hnone
    refine ⟨_, rfl, ?_⟩
    simp only [Guest.write, offset?_of_nonneg (Int64.le_iff_toInt_le.2 hoffset), he]
    rfl
  | nothingToOpen hnone =>
    obtain ⟨e, hne, he⟩ := pathAt_of_not_spans hnone
    refine ⟨_, rfl, ?_⟩
    cases e with
    | notUtf8 => exact absurd rfl hne
    | noMemory | outOfRange =>
      simp only [Guest.openFile, he]
      rfl
  | noPathToOpen hspans hbytes =>
    refine ⟨_, rfl, ?_⟩
    simp only [Guest.openFile, pathAt_of_not_utf8 hspans hbytes]
    rfl
  | nothingToDelete hnone =>
    obtain ⟨e, he⟩ := pathAt_of_not_spells hnone
    refine ⟨_, rfl, ?_⟩
    simp only [Guest.delete, he]
    rfl
  | nothingToAccess hnone =>
    obtain ⟨e, he⟩ := pathAt_of_not_spells hnone
    refine ⟨_, rfl, ?_⟩
    simp only [Guest.access, he]
    rfl

/-- What is asked is not refused. -/
theorem Asks.not_refuses (h : i.Asks g args op) : ¬ i.Refuses g args n := by
  intro hrefuses
  cases h with
  | openFile hpath =>
    cases hrefuses with
    | nothingToOpen hnone => exact hnone _ hpath
    | noPathToOpen hspans hbytes =>
      exact hbytes _ (Except.ok.inj (hspans.bytesAt.symm.trans (Spans.bytesAt hpath)))
  | write hstart hspans =>
    cases hrefuses with
    | negativeOffset hneg => omega
    | nothingToWrite _ hnone => exact hnone _ hspans
  | truncate hcount =>
    cases hrefuses with
    | negativeSize hneg => omega
  | delete hpath =>
    cases hrefuses with
    | nothingToDelete hnone => exact hnone _ hpath
  | access hpath =>
    cases hrefuses with
    | nothingToAccess hnone => exact hnone _ hpath
  | closeFile | sync | fileSize | lock | unlock => cases hrefuses

/-- An unsigned number of 64 bits for an offset or a size that is not negative. -/
theorem exists_toNat_eq {offset : Int64} (h : 0 ≤ offset.toInt) :
    ∃ start : UInt64, (start.toNat : Int) = offset.toInt := by
  refine ⟨offset.toUInt64, ?_⟩
  rw [toNat_offset (Int64.le_iff_toInt_le.2 h)]
  omega

/-- **Every call is asked or refused**, but for reading. -/
theorem asks_or_refuses (hi : i ≠ .read) (hargs : args.map Value.type = i.params) (g : Guest S) :
    (∃ op, i.Asks g args op) ∨ ∃ n, i.Refuses g args n := by
  cases i <;> simp only [params, Value.map_type_eq_i32_iff, Value.map_type_eq_i64_iff,
    List.map_eq_nil_iff] at hargs
  case read => exact absurd rfl hi
  case openFile =>
    obtain ⟨pointer, _, rfl, length, _, rfl, flags, _, rfl, rfl⟩ := hargs
    rcases g.spells_or pointer length with ⟨path, hpath⟩ | ⟨bytes, hspans, hbytes⟩ | hnone
    · exact .inl ⟨_, .openFile hpath⟩
    · exact .inr ⟨_, .noPathToOpen hspans hbytes⟩
    · exact .inr ⟨_, .nothingToOpen hnone⟩
  case write =>
    obtain ⟨fd, _, rfl, pointer, _, rfl, length, _, rfl, offset, _, rfl, rfl⟩ := hargs
    by_cases hneg : offset.toInt < 0
    · exact .inr ⟨_, .negativeOffset hneg⟩
    obtain ⟨start, hstart⟩ := exists_toNat_eq (Int.not_lt.1 hneg)
    by_cases hspans : ∃ bytes, g.Spans pointer length bytes
    · obtain ⟨bytes, hspans⟩ := hspans
      exact .inl ⟨_, .write hstart hspans⟩
    · exact .inr ⟨_, .nothingToWrite (Int.not_lt.1 hneg) (not_exists.1 hspans)⟩
  case truncate =>
    obtain ⟨fd, _, rfl, size, _, rfl, rfl⟩ := hargs
    by_cases hneg : size.toInt < 0
    · exact .inr ⟨_, .negativeSize hneg⟩
    · obtain ⟨count, hcount⟩ := exists_toNat_eq (Int.not_lt.1 hneg)
      exact .inl ⟨_, .truncate hcount⟩
  case delete =>
    obtain ⟨pointer, _, rfl, length, _, rfl, rfl⟩ := hargs
    by_cases hpath : ∃ path, g.Spells pointer length path
    · obtain ⟨path, hpath⟩ := hpath
      exact .inl ⟨_, .delete hpath⟩
    · exact .inr ⟨_, .nothingToDelete (not_exists.1 hpath)⟩
  case access =>
    obtain ⟨pointer, _, rfl, length, _, rfl, rfl⟩ := hargs
    by_cases hpath : ∃ path, g.Spells pointer length path
    · obtain ⟨path, hpath⟩ := hpath
      exact .inl ⟨_, .access hpath⟩
    · exact .inr ⟨_, .nothingToAccess (not_exists.1 hpath)⟩
  case closeFile =>
    obtain ⟨fd, _, rfl, rfl⟩ := hargs
    exact .inl ⟨_, .closeFile⟩
  case sync =>
    obtain ⟨fd, _, rfl, rfl⟩ := hargs
    exact .inl ⟨_, .sync⟩
  case fileSize =>
    obtain ⟨fd, _, rfl, rfl⟩ := hargs
    exact .inl ⟨_, .fileSize⟩
  case lock =>
    obtain ⟨fd, _, rfl, level, _, rfl, rfl⟩ := hargs
    exact .inl ⟨_, .lock⟩
  case unlock =>
    obtain ⟨fd, _, rfl, level, _, rfl, rfl⟩ := hargs
    exact .inl ⟨_, .unlock⟩

/-! ### What an import answers and does -/

/-- What the guest is given is what the bridge answers. -/
theorem Asks.integer?_value (h : i.Asks g args op) (hb : 0 < g.bridge.nextFd) (s : σ) :
    (i.value (op.perform (g.bridge, s)).1).integer? = some (op.perform (g.bridge, s)).1 := by
  obtain ⟨hlong, hshort, hlow⟩ := op.perform_fits hb s
  cases h with
  | fileSize => exact Value.integer?_i64 (by omega) hlong
  | openFile | closeFile | write | truncate | sync | delete | access | lock | unlock =>
    exact Value.integer?_i32 hlow (hshort nofun)

theorem Refuses.integer?_value (h : i.Refuses g args n) : (i.value n).integer? = some n := by
  cases h <;> rfl

/-- **An import is the bridge seen through the memory, and what is refused does nothing.**  Whatever
the bridge, the memory and the storage are, and whatever integers of its types an import other than
reading is given, with pointers and lengths taken without their sign:

* the call is asked of the bridge or it is refused, and not both;
* what is asked answers what the operation of the bridge answers, on the bytes or the path that the
  guest points to, and does to the bridge and the storage what it does, and nothing to the memory;
* what is refused answers its status, and does nothing.
-/
theorem run_bridge (hi : i ≠ .read) (hargs : args.map Value.type = i.params) (g : Guest S) (s : σ) :
    (∀ n, (unsigned n : Int) = n.toInt % 0x100000000) ∧
    ((∃ op, i.Asks g args op) ∨ ∃ n, i.Refuses g args n) ∧
    (∀ op, i.Asks g args op → (∀ n, ¬ i.Refuses g args n) ∧
      let r := op.perform (g.bridge, s)
      (i.function : Function S).run args (g, s) =
        .ok [i.value r.1] ({ g with bridge := r.2.1 }, r.2.2) ∧
      (0 < g.bridge.nextFd → (i.value r.1).integer? = some r.1)) ∧
    ∀ n, i.Refuses g args n →
      (i.function : Function S).run args (g, s) = .ok [i.value n] (g, s) ∧
        (i.value n).integer? = some n :=
  ⟨unsigned_eq_emod, asks_or_refuses hi hargs g,
    fun _ hasks => ⟨fun _ => hasks.not_refuses, hasks.run s, fun hb => hasks.integer?_value hb s⟩,
    fun _ hrefuses => ⟨hrefuses.run s, hrefuses.integer?_value⟩⟩

/-- The edges of the memory: a path may end where the memory ends, an empty stretch may lie there,
and a stretch that is longer than what is left is refused, also where the sum leaves a word.  A
negative offset is refused before the missing memory and the unknown descriptor are. -/
theorem run_bridge_edges :
    let t := Tree.empty 100
    let m := KnownModule.memoryWith 1 1 [(0xffff, [0x66])]
    let b : Bridge (Storage.memory .addressSpace) := (BridgeOp.probe.perform (.new, t)).2.1
    let run (i : ImportName) (args : List Value) (attached : Bool) :=
      (i.function : Function (Storage.memory .addressSpace)).run args (⟨b, some m, attached, []⟩, t)
    let opened := (BridgeOp.openFile "f" 1).perform (b, t)
    let wrote := (BridgeOp.write 7 [] 0).perform (b, t)
    run .openFile [.i32 0xffff, .i32 1, .i32 1] true =
      .ok [.i32 1] (⟨opened.2.1, some m, true, []⟩, opened.2.2) ∧
    run .write [.i32 7, .i32 0x10000, .i32 0, .i64 0] true =
      .ok [.i32 (-1)] (⟨wrote.2.1, some m, true, []⟩, wrote.2.2) ∧
    run .write [.i32 7, .i32 0xffff, .i32 2, .i64 0] true =
      .ok [.i32 (-1)] (⟨b, some m, true, []⟩, t) ∧
    run .write [.i32 7, .i32 (-1), .i32 2, .i64 0] true =
      .ok [.i32 (-1)] (⟨b, some m, true, []⟩, t) ∧
    run .write [.i32 7, .i32 (-1), .i32 2, .i64 (-1)] false =
      .ok [.i32 (-10)] (⟨b, some m, false, []⟩, t) := by
  intro t m b run opened wrote
  let g : Guest (Storage.memory .addressSpace) := ⟨b, some m, true, []⟩
  have hspans {pointer length : Int32} {bytes : List UInt8}
      (hin : unsigned pointer + unsigned length ≤ m.size)
      (hbytes : bytes = m.data.slice (unsigned pointer) (unsigned length)) :
      g.Spans pointer length bytes :=
    ⟨m, ⟨rfl, hin⟩, hbytes.trans (Content.slice_eq ..)⟩
  have hpath : g.Spells 0xffff 1 "f" := hspans (by decide +kernel) (by decide +kernel)
  have hempty : g.Spans 0x10000 0 [] := hspans (by decide +kernel) (by decide +kernel)
  have hlong {pointer : Int32} (h : m.size < unsigned pointer + unsigned 2) (bytes : List UInt8) :
      ¬ g.Spans pointer 2 bytes := by
    rintro ⟨m', ⟨hreach, hin⟩, -⟩
    obtain rfl : m = m' := Option.some.inj hreach
    exact Nat.not_lt.2 hin h
  have hone : opened.1 = 1 := by decide +kernel
  have hminus : wrote.1 = -1 := by decide +kernel
  have htypes (fd pointer length : Int32) (offset : Int64) :
      [Value.i32 fd, .i32 pointer, .i32 length, .i64 offset].map Value.type = write.params := rfl
  have hasks : openFile.Asks g [.i32 0xffff, .i32 1, .i32 1] (.openFile "f" 1) := .openFile hpath
  have hasks' : write.Asks g [.i32 7, .i32 0x10000, .i32 0, .i64 0] (.write 7 [] 0) :=
    .write rfl hempty
  obtain ⟨-, hopen, -⟩ := (run_bridge (by decide) rfl g t).2.2.1 _ hasks
  obtain ⟨-, hwrite, -⟩ := (run_bridge (by decide) rfl g t).2.2.1 _ hasks'
  have hrefused {pointer : Int32} (h : m.size < unsigned pointer + unsigned 2) :=
    (run_bridge (by decide) (htypes 7 pointer 2 0) g t).2.2.2 _
      (.nothingToWrite (by decide) (hlong h))
  have hnegative := (run_bridge (by decide) (htypes 7 (-1) 2 (-1)) { g with attached := false }
    t).2.2.2 _ (.negativeOffset (by decide))
  refine ⟨hopen.trans ?_, hwrite.trans ?_, (hrefused (by decide +kernel)).1,
    (hrefused (by decide +kernel)).1, hnegative.1⟩
  · change EStateM.Result.ok [openFile.value opened.1] _ = _
    rw [hone]
    rfl
  · change EStateM.Result.ok [write.value wrote.1] _ = _
    rw [hminus]
    rfl

end ImportName

end EngineHost
