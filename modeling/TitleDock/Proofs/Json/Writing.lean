import TitleDock.Proofs.Json.Parsing
import TitleDock.Proofs.Json.Spelling

/-! A written value is read back. A value made of texts, naturals, arrays and records has a compact
text, which is parsed as the value like any other text of it, and its parts are what was written. -/

namespace TitleDock.Json

/-- A value made of what is written: texts, naturals, arrays and records. -/
inductive IsWritten : Json → Prop
  | null : IsWritten .null
  | bool (b : Bool) : IsWritten (.bool b)
  | text (s : String) : IsWritten (.ofText s)
  | natural (n : Nat) : IsWritten (.ofNat n)
  | array {items : List Json} (each : ∀ v ∈ items, IsWritten v) : IsWritten (.array items)
  | record {members : List (String × Json)} (each : ∀ m ∈ members, IsWritten m.2) :
      IsWritten (.record members)

namespace Token

theorem spells_itemTokens {vs : List Json} (each : ∀ v ∈ vs, ∀ t ∈ v.tokens, t.Spells t.spelling) :
    ∀ t ∈ itemTokens vs, t.Spells t.spelling := by
  induction vs with
  | nil => exact List.forall_mem_singleton.2 (.mark rfl)
  | cons v vs ih =>
    obtain ⟨first, later⟩ := List.forall_mem_cons.1 each
    rw [itemTokens, List.cons_append, List.forall_mem_cons, List.forall_mem_append]
    exact ⟨.mark rfl, first, ih later⟩

theorem spells_memberTokens {members : List (String × Json)}
    (each : ∀ m ∈ members, ∀ t ∈ m.2.tokens, t.Spells t.spelling) :
    ∀ t ∈ memberTokens (members.map fun (key, v) => (Glyph.ofText key, v)), t.Spells t.spelling := by
  induction members with
  | nil => exact List.forall_mem_singleton.2 (.mark rfl)
  | cons m members ih =>
    obtain ⟨first, later⟩ := List.forall_mem_cons.1 each
    simp only [List.map_cons, memberTokens, List.cons_append, List.forall_mem_cons,
      List.forall_mem_append]
    exact ⟨.mark rfl, spells_text m.1, .mark rfl, first, ih later⟩

end Token

open Token in
theorem IsWritten.spells {v : Json} (h : v.IsWritten) : ∀ t ∈ v.tokens, t.Spells t.spelling := by
  induction h with
  | null => exact List.forall_mem_singleton.2 (.mark rfl)
  | bool b => exact List.forall_mem_singleton.2 (.mark rfl)
  | text s => exact List.forall_mem_singleton.2 (spells_text s)
  | natural n => exact List.forall_mem_singleton.2 (spells_natural n)
  | @array items each ih =>
    cases items with
    | nil => exact List.forall_mem_cons.2 ⟨.mark rfl, List.forall_mem_singleton.2 (.mark rfl)⟩
    | cons v vs =>
      obtain ⟨first, later⟩ := List.forall_mem_cons.1 ih
      rw [tokens, List.cons_append, List.forall_mem_cons, List.forall_mem_append]
      exact ⟨.mark rfl, first, spells_itemTokens later⟩
  | @record members each ih =>
    cases members with
    | nil => exact List.forall_mem_cons.2 ⟨.mark rfl, List.forall_mem_singleton.2 (.mark rfl)⟩
    | cons m members =>
      obtain ⟨first, later⟩ := List.forall_mem_cons.1 ih
      simp only [Json.record, List.map_cons, tokens, List.cons_append, List.forall_mem_cons,
        List.forall_mem_append]
      exact ⟨.mark rfl, spells_text m.1, .mark rfl, first, spells_memberTokens later⟩

theorem IsWritten.parse?_compact {v : Json} (h : v.IsWritten) : parse? v.compact = some v :=
  IsText.parse?_eq (Token.laid_spelling h.spells)

@[simp] theorem text?_ofText (s : String) : (ofText s).text? = some s := Glyph.text?_ofText s

@[simp] theorem choice?_ofText (s : String) : (ofText s).choice? = some s := Glyph.text?_ofText s

@[simp] theorem required_some {α : Type} (read : Json → Option α) (v : Json) :
    required read (some v) = read v := rfl

@[simp] theorem orElse_some {α : Type} (fallback : α) (read : Json → Option α) (v : Json) :
    orElse fallback read (some v) = read v := rfl

theorem natural?_ofNat {most n : Nat} (small : n ≤ most) : (ofNat n).natural? most = some n := by
  have digits : (Token.natural n).map (fun b => Char.ofNat b.toNat) = Decimal.digits n :=
    Token.map_natural n
  rw [ofNat, natural?, ← Token.natural, digits, Decimal.natural?_digits]
  simpa using small

theorem natural?_toNat (n : UInt64) :
    ((ofNat n.toNat).natural? Decimal.largest64) = some n.toNat :=
  natural?_ofNat (Nat.le_of_lt_succ n.toNat_lt)

theorem members?_record (members : List (String × Json)) :
    (record members).members? = some members := by
  rw [record, members?]
  induction members with
  | nil => rfl
  | cons m members ih =>
    obtain ⟨key, v⟩ := m
    rw [List.map_cons, List.mapM_cons, ih]
    simp [Glyph.text?_ofText]

theorem fields?_record (known : List (List String)) (members : List (String × Json)) :
    (record members).fields? known =
      members.foldlM (fun slots (name, v) => fill? name v known slots) (known.map fun _ => none) := by
  have read := members?_record members
  rw [record] at read ⊢
  rw [fields?, read]
  · rfl
  · intro items same
    cases same

end TitleDock.Json
