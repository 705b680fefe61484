import EngineHost.Message.Response
import Mathlib.Tactic.SplitIfs

/-!
# The text of a value is one line

Whatever texts a value holds, its own text has no control characters: they are escaped.  So a
response on a line of its own is a line.

* `Json.plain_render` : the text of a value is plain.
* `Response.plain_toText` : the text of a response is plain.
-/

namespace EngineHost

/-- There are no control characters among the characters. -/
def Plain (cs : List Char) : Prop := ∀ c ∈ cs, 0x20 ≤ c.toNat

instance : DecidablePred Plain := List.decidableBAll fun c : Char => 0x20 ≤ c.toNat

namespace Plain

variable {cs ds : List Char} {c : Char}

theorem nil : Plain [] := nofun

theorem cons (hc : 0x20 ≤ c.toNat) (h : Plain cs) : Plain (c :: cs) :=
  List.forall_mem_cons.2 ⟨hc, h⟩

theorem append (h : Plain cs) (h' : Plain ds) : Plain (cs ++ ds) := List.forall_mem_append.2 ⟨h, h'⟩

theorem subset (h : Plain ds) (hcs : cs ⊆ ds) : Plain cs := fun c hc => h c (hcs hc)

theorem replicate (n : Nat) (hc : 0x20 ≤ c.toNat) : Plain (List.replicate n c) := by
  intro d hd
  rwa [List.eq_of_mem_replicate hd]

theorem not_mem (h : Plain cs) (hc : c.toNat < 0x20) : c ∉ cs := fun hmem =>
  absurd (h c hmem) (Nat.not_le.2 hc)

end Plain

/-! ### Numbers -/

theorem plain_digitChar (n : Nat) : 0x20 ≤ (Nat.digitChar n).toNat := by
  have hdigit : ∀ n < 16, 0x20 ≤ (Nat.digitChar n).toNat := by decide
  by_cases hn : n < 16
  · exact hdigit n hn
  · rw [Nat.digitChar_eq_star.2 (Nat.not_lt.1 hn)]
    decide

theorem plain_toDigits {base : Nat} (hbase : 1 < base) (n : Nat) : Plain (Nat.toDigits base n) := by
  induction n using Nat.strongRecOn with
  | ind n ih =>
    rw [Nat.toDigits_eq_if hbase]
    split_ifs with hlt
    · exact .cons (plain_digitChar n) .nil
    · have hsmaller : n / base < n := Nat.div_lt_self (by omega) hbase
      exact (ih _ hsmaller).append (.cons (plain_digitChar _) .nil)

theorem plain_repr (n : Nat) : Plain n.repr.toList := by
  rw [← Nat.toString_eq_repr, Nat.toString_eq_ofList_toDigits, String.toList_ofList]
  exact plain_toDigits (by decide) n

theorem DecimalNotation.plain_text (n : DecimalNotation) (d : Decimal) :
    Plain (n.text d).toList := by
  have hdigits : Plain (Nat.toDigits 10 d.digits) := plain_toDigits (by decide) _
  have htake : ∀ k, Plain ((Nat.toDigits 10 d.digits).take k) := fun k =>
    hdigits.subset (List.take_subset ..)
  have hdrop : ∀ k, Plain ((Nat.toDigits 10 d.digits).drop k) := fun k =>
    hdigits.subset (List.drop_subset ..)
  have hzeros : ∀ k, Plain (List.replicate k '0') := fun k => .replicate k (by decide)
  have hexponent : Plain (Nat.toDigits 10 d.exponent.natAbs) := plain_toDigits (by decide) _
  have hpoint : ∀ {cs ds}, Plain cs → Plain ds → Plain (cs ++ '.' :: ds) := fun h h' =>
    h.append (.cons (by decide) h')
  rw [DecimalNotation.text, String.toList_ofList]
  dsimp only
  split_ifs with hplace hbelow hwhole hone
  · exact .cons (by decide) (.cons (by decide) ((hzeros _).append hdigits))
  · exact (hdigits.append (hzeros _)).append (by decide)
  · exact hpoint (htake _) (hdrop _)
  · exact hdigits.append (.cons (by decide) (.cons (by decide) hexponent))
  · exact hdigits.append (.cons (by decide) (.cons (by decide) hexponent))
  · exact (hpoint (htake _) (hdrop _)).append (.cons (by decide) (.cons (by decide) hexponent))
  · exact (hpoint (htake _) (hdrop _)).append (.cons (by decide) (.cons (by decide) hexponent))

namespace Json

theorem Number.plain_render (n : Number) : Plain n.render.toList := by
  cases n with
  | int n fits =>
    rw [render, Int.toString_eq_repr, Int.repr_eq_if]
    split_ifs
    · exact plain_repr _
    · rw [String.toList_append]
      exact Plain.append (by decide) (plain_repr _)
  | float x finite =>
    have hsign : ∀ negative : Bool, Plain (if negative then "-" else "").toList := by decide
    rw [render]
    split
    · rename_i negative significand exponent hdatum
      by_cases hzero : significand = 0
      · rw [if_pos hzero, String.toList_append]
        exact (hsign negative).append (by decide)
      · rw [if_neg hzero, String.toList_append]
        exact (hsign negative).append (layout.plain_text _)
    · decide

/-! ### Texts -/

theorem plain_hexDigits (width n : Nat) : Plain (hexDigits width n) :=
  (Plain.replicate _ (by decide)).append (plain_toDigits (by decide) n)

/-- A character is escaped if it is a control character. -/
theorem plain_escapeChar (c : Char) : Plain (escapeChar c) := by
  unfold escapeChar
  -- seven characters have an escape of their own
  split_ifs with _ _ _ _ _ _ _ hcontrol
  iterate 7 · decide
  · exact .cons (by decide) (.cons (by decide) (plain_hexDigits 4 c.toNat))
  · exact .cons (Nat.not_lt.1 hcontrol) .nil

theorem plain_quote (s : String) : Plain (quote s).toList := by
  have hescaped : Plain (s.toList.flatMap escapeChar) := by
    intro d hd
    obtain ⟨c, -, hmem⟩ := List.mem_flatMap.1 hd
    exact plain_escapeChar c d hmem
  rw [quote, String.toList_ofList]
  exact (Plain.cons (by decide) hescaped).append (by decide)

/-! ### Values -/

theorem plain_intercalate {texts : List String} (h : ∀ text ∈ texts, Plain text.toList) :
    Plain (String.intercalate "," texts).toList := by
  induction texts with
  | nil => rw [String.intercalate_nil]; decide
  | cons text texts ih =>
    rw [List.forall_mem_cons] at h
    cases texts with
    | nil => rw [String.intercalate_singleton]; exact h.1
    | cons next rest =>
      rw [String.intercalate_cons_cons, String.toList_append, String.toList_append]
      exact (h.1.append (by decide)).append (ih h.2)

mutual

/-- **The text of a value is plain.** -/
theorem plain_render : ∀ j : Json, Plain j.render.toList
  | .null => by rw [render]; decide
  | .bool true => by rw [render]; decide
  | .bool false => by rw [render]; decide
  | .number n => by rw [render]; exact n.plain_render
  | .string s => by rw [render]; exact plain_quote s
  | .array items => by
    rw [render, String.toList_append, String.toList_append]
    exact (Plain.append (by decide) (plain_intercalate (plain_renderItems items))).append
      (by decide)
  | .object fields => by
    rw [render, String.toList_append, String.toList_append]
    exact (Plain.append (by decide) (plain_intercalate (plain_renderFields fields))).append
      (by decide)

theorem plain_renderItems : ∀ (items : List Json), ∀ text ∈ renderItems items, Plain text.toList
  | [] => by rw [renderItems]; nofun
  | j :: rest => by
    rw [renderItems]
    exact List.forall_mem_cons.2 ⟨plain_render j, plain_renderItems rest⟩

theorem plain_renderFields : ∀ (fields : List (String × Json)), ∀ text ∈ renderFields fields,
    Plain text.toList
  | [] => by rw [renderFields]; nofun
  | (k, v) :: rest => by
    rw [renderFields]
    refine List.forall_mem_cons.2 ⟨?_, plain_renderFields rest⟩
    rw [String.toList_append, String.toList_append]
    exact ((plain_quote k).append (by decide)).append (plain_render v)

end

end Json

/-- **The text of a response is plain.** -/
theorem Response.plain_toText (r : Response) : Plain r.toText.toList := Json.plain_render _

end EngineHost
