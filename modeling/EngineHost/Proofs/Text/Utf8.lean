import Mathlib.Tactic.SplitIfs

/-!
# The bytes of characters

`utf8 cs` are the bytes of the characters `cs`.  A byte below `0x80` among them stands for a
character of its own, so an ASCII character can be looked for in the bytes as well as in the text.
-/

namespace EngineHost

/-- The UTF-8 bytes of characters. -/
def utf8 (cs : List Char) : List UInt8 := cs.flatMap String.utf8EncodeChar

@[simp] theorem utf8_nil : utf8 [] = [] := rfl

@[simp] theorem utf8_append (cs ds : List Char) : utf8 (cs ++ ds) = utf8 cs ++ utf8 ds :=
  List.flatMap_append

theorem utf8_eq_nil_iff {cs : List Char} : utf8 cs = [] ↔ cs = [] := by
  cases cs with
  | nil => simp
  | cons c cs => simp [utf8, String.utf8EncodeChar_ne_nil]

theorem utf8_toList (text : String) : utf8 text.toList = text.toUTF8.data.toList := by
  have hbytes : (String.ofList text.toList).toByteArray = text.toList.utf8Encode :=
    String.toByteArray_ofList
  rw [String.toUTF8_eq_toByteArray, ← String.ofList_toList (s := text), hbytes,
    String.ofList_toList, List.utf8Encode, List.toList_data_toByteArray, utf8]

/-- Bytes of characters are read as these characters. -/
theorem fromUTF8?_utf8 (cs : List Char) :
    String.fromUTF8? ⟨(utf8 cs).toArray⟩ = some (String.ofList cs) := by
  have hbytes : (⟨(utf8 cs).toArray⟩ : ByteArray) = cs.utf8Encode := by
    apply ByteArray.ext
    rw [List.utf8Encode, List.data_toByteArray, utf8]
  rw [hbytes, String.fromUTF8?, dif_pos ByteArray.isValidUTF8_utf8Encode]
  rfl

/-- Bytes are read as a text just when they are the bytes of its characters. -/
theorem fromUTF8?_eq_some_iff {bytes : List UInt8} {text : String} :
    String.fromUTF8? ⟨bytes.toArray⟩ = some text ↔ bytes = utf8 text.toList := by
  constructor
  · intro h
    rw [String.fromUTF8?] at h
    split_ifs at h
    cases h
    rw [utf8_toList]
    rfl
  · rintro rfl
    rw [fromUTF8?_utf8, String.ofList_toList]

/-- A byte below `0x80` stands for the character it belongs to. -/
theorem toNat_eq_of_mem_utf8EncodeChar {c : Char} {b : UInt8} (h : b ∈ String.utf8EncodeChar c)
    (hb : b.toNat < 0x80) : c.toNat = b.toNat := by
  rw [String.utf8EncodeChar] at h
  -- all bytes but the single one of an ASCII character have their highest bit set
  have hhigh : ∀ n, 0x80 ≤ n → n < 0x100 → b ≠ UInt8.ofNat n := by
    rintro n hlow hlt rfl
    rw [UInt8.toNat_ofNat'] at hb
    omega
  split_ifs at h with hascii htwo hthree
  · obtain rfl := List.mem_singleton.1 h
    rw [UInt8.toNat_ofNat', Nat.mod_eq_of_lt (by omega), Char.toNat]
  all_goals simp only [List.mem_cons, List.not_mem_nil, or_false] at h
  · rcases h with h | h
    all_goals exact absurd h (hhigh _ (by omega) (by omega))
  · rcases h with h | h | h
    all_goals exact absurd h (hhigh _ (by omega) (by omega))
  · rcases h with h | h | h | h
    all_goals exact absurd h (hhigh _ (by omega) (by omega))

/-- An ASCII character is among characters just when its byte is among theirs. -/
theorem mem_utf8_iff {cs : List Char} {c : Char} (hc : c.toNat < 0x80) :
    UInt8.ofNat c.toNat ∈ utf8 cs ↔ c ∈ cs := by
  have hbyte : (UInt8.ofNat c.toNat).toNat = c.toNat := by
    rw [UInt8.toNat_ofNat', Nat.mod_eq_of_lt (by omega)]
  rw [utf8, List.mem_flatMap]
  constructor
  · rintro ⟨d, hd, hmem⟩
    have hd' := toNat_eq_of_mem_utf8EncodeChar hmem (by omega)
    rwa [← Char.toNat_inj.1 (hd'.trans hbyte)]
  · intro h
    refine ⟨c, h, ?_⟩
    rw [String.utf8EncodeChar, if_pos (by exact Nat.le_of_lt_succ hc)]
    exact List.mem_singleton.2 rfl

end EngineHost
