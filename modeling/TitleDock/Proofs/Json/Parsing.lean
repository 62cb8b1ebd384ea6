import TitleDock.Proofs.Json.Layout

/-! The texts of a value, and of nothing else, are parsed as the value. The builder takes the tokens
of any value and puts the value where it belongs, whatever is still open around it; nothing may
stand behind a whole document but blanks. -/

namespace TitleDock.Json

namespace Builder

theorem run_firstItem (v : Json) (ts : List Token) (stack : List Frame) :
    run (v.tokens ++ ts) (.firstItem stack) = run (v.tokens ++ ts) (.value (.items [] :: stack)) := by
  rcases v with _ | _ | _ | _ | (_ | _) | (_ | ⟨⟨_, _⟩, _⟩) <;> rfl

mutual

theorem run_tokens (v : Json) (ts : List Token) (stack : List Frame) :
    run (v.tokens ++ ts) (.value stack) = (put v stack).bind (run ts) := by
  cases v with
  | null | bool | number | string => rfl
  | array items =>
    cases items with
    | nil => rfl
    | cons v vs =>
      have first : run (v.tokens ++ (itemTokens vs ++ ts)) (.value (.items [] :: stack)) = _ :=
        run_tokens v (itemTokens vs ++ ts) (.items [] :: stack)
      calc run ((Json.array (v :: vs)).tokens ++ ts) (.value stack)
          = run (v.tokens ++ (itemTokens vs ++ ts)) (.firstItem stack) := by
            simp [tokens, run, step, startValue]
        _ = run (itemTokens vs ++ ts) (.separator (.items [v]) stack) := by
            rw [run_firstItem, first]
            rfl
        _ = _ := run_itemTokens vs [v] ts stack
  | object members =>
    cases members with
    | nil => rfl
    | cons m ms =>
      obtain ⟨key, v⟩ := m
      have first : run (v.tokens ++ (memberTokens ms ++ ts)) (.value (.member [] key :: stack)) = _ :=
        run_tokens v (memberTokens ms ++ ts) (.member [] key :: stack)
      calc run ((Json.object ((key, v) :: ms)).tokens ++ ts) (.value stack)
          = run (v.tokens ++ (memberTokens ms ++ ts)) (.value (.member [] key :: stack)) := by
            simp [tokens, run, step, startValue]
        _ = run (memberTokens ms ++ ts) (.separator (.members [(key, v)]) stack) := by
            rw [first]
            rfl
        _ = _ := run_memberTokens ms [(key, v)] ts stack

theorem run_itemTokens (vs done : List Json) (ts : List Token) (stack : List Frame) :
    run (itemTokens vs ++ ts) (.separator (.items done) stack) =
      (put (.array (done.reverse ++ vs)) stack).bind (run ts) := by
  cases vs with
  | nil => simp [itemTokens, run, step]
  | cons v vs =>
    have next : run (v.tokens ++ (itemTokens vs ++ ts)) (.value (.items done :: stack)) = _ :=
      run_tokens v (itemTokens vs ++ ts) (.items done :: stack)
    calc run (itemTokens (v :: vs) ++ ts) (.separator (.items done) stack)
        = run (v.tokens ++ (itemTokens vs ++ ts)) (.value (.items done :: stack)) := by
          simp [itemTokens, run, step]
      _ = run (itemTokens vs ++ ts) (.separator (.items (v :: done)) stack) := by
          rw [next]
          rfl
      _ = _ := by
          rw [run_itemTokens vs (v :: done) ts stack]
          simp

theorem run_memberTokens (ms done : List (List Glyph × Json)) (ts : List Token)
    (stack : List Frame) :
    run (memberTokens ms ++ ts) (.separator (.members done) stack) =
      (put (.object (done.reverse ++ ms)) stack).bind (run ts) := by
  cases ms with
  | nil => simp [memberTokens, run, step]
  | cons m ms =>
    obtain ⟨key, v⟩ := m
    have next : run (v.tokens ++ (memberTokens ms ++ ts)) (.value (.member done key :: stack)) = _ :=
      run_tokens v (memberTokens ms ++ ts) (.member done key :: stack)
    calc run (memberTokens ((key, v) :: ms) ++ ts) (.separator (.members done) stack)
        = run (v.tokens ++ (memberTokens ms ++ ts)) (.value (.member done key :: stack)) := by
          simp [memberTokens, run, step]
      _ = run (memberTokens ms ++ ts) (.separator (.members ((key, v) :: done)) stack) := by
          rw [next]
          rfl
      _ = _ := by
          rw [run_memberTokens ms ((key, v) :: done) ts stack]
          simp

end

end Builder

theorem ofTokens?_tokens (v : Json) : ofTokens? v.tokens = some v := by
  have built := Builder.run_tokens v [] []
  rw [List.append_nil] at built
  rw [ofTokens?, built]
  rfl

/-- A text of a value: its tokens in any spelling, with blanks anywhere but inside of them. -/
def IsText (v : Json) (bs : Bytes) : Prop := Token.Laid v.tokens bs

namespace Token

def MayFollow (ts : List Token) : Prop := Apart ts ∧ ∀ u ∈ ts.head?, u.isNumber = false

theorem mayFollow_cons {t : Token} {ts : List Token} (other : t.isNumber = false) (rest : Apart ts) :
    MayFollow (t :: ts) :=
  ⟨⟨fun number => by simp [other] at number, rest⟩, by simpa using other⟩

mutual

theorem apart_tokens (v : Json) {ts : List Token} (rest : MayFollow ts) : Apart (v.tokens ++ ts) := by
  cases v with
  | null => exact (mayFollow_cons rfl rest.1).1
  | bool b => exact (mayFollow_cons rfl rest.1).1
  | number lexeme => exact ⟨fun _ => rest.2, rest.1⟩
  | string gs => exact (mayFollow_cons rfl rest.1).1
  | array items =>
    cases items with
    | nil => exact (mayFollow_cons rfl (mayFollow_cons rfl rest.1).1).1
    | cons v vs =>
      have first := apart_tokens v (mayFollow_itemTokens vs rest)
      rw [tokens, List.append_assoc]
      exact (mayFollow_cons rfl first).1
  | object members =>
    cases members with
    | nil => exact (mayFollow_cons rfl (mayFollow_cons rfl rest.1).1).1
    | cons m ms =>
      obtain ⟨key, v⟩ := m
      have first := apart_tokens v (mayFollow_memberTokens ms rest)
      rw [tokens, List.append_assoc]
      exact (mayFollow_cons rfl (mayFollow_cons rfl (mayFollow_cons rfl first).1).1).1

theorem mayFollow_itemTokens (vs : List Json) {ts : List Token} (rest : MayFollow ts) :
    MayFollow (itemTokens vs ++ ts) := by
  cases vs with
  | nil => exact mayFollow_cons rfl rest.1
  | cons v vs =>
    have first := apart_tokens v (mayFollow_itemTokens vs rest)
    rw [itemTokens, List.append_assoc]
    exact mayFollow_cons rfl first

theorem mayFollow_memberTokens (ms : List (List Glyph × Json)) {ts : List Token}
    (rest : MayFollow ts) : MayFollow (memberTokens ms ++ ts) := by
  cases ms with
  | nil => exact mayFollow_cons rfl rest.1
  | cons m ms =>
    obtain ⟨key, v⟩ := m
    have first := apart_tokens v (mayFollow_memberTokens ms rest)
    rw [memberTokens, List.append_assoc]
    exact mayFollow_cons rfl (mayFollow_cons rfl (mayFollow_cons rfl first).1).1

end

end Token

theorem apart_tokens (v : Json) : Token.Apart v.tokens := by
  have alone : Token.MayFollow [] := ⟨trivial, by simp⟩
  simpa using Token.apart_tokens v alone

section Parsing

variable {v : Json} {bs junk : Bytes}

theorem IsText.parse?_eq (h : v.IsText bs) : parse? bs = some v := by
  rw [parse?, h.scan_eq (apart_tokens v), Option.bind_some, ofTokens?_tokens]

theorem ofTokens?_append (v : Json) {more : List Token} (some : more ≠ []) :
    ofTokens? (v.tokens ++ more) = none := by
  cases more with
  | nil => exact absurd rfl some
  | cons t more =>
    rw [ofTokens?, Builder.run_tokens]
    rfl

theorem IsText.parse?_append (h : v.IsText bs)
    (ends : ∀ u ∈ v.tokens.getLast?, u.isNumber = true → Token.EndsNumber junk)
    (solid : ∃ b ∈ junk, Token.isBlank b = false) : parse? (bs ++ junk) = none := by
  obtain ⟨left, -, scanned⟩ :=
    h.scanOnto_append (apart_tokens v) ends [] (Nat.le_refl (bs ++ junk).length)
  rw [List.append_nil] at scanned
  rw [parse?, Token.scan, scanned]
  cases all : Token.scanOnto v.tokens.reverse left junk with
  | none => rfl
  | some ts =>
    obtain ⟨more, rfl, blanks⟩ := Token.scanOnto_eq_some all
    have some : more ≠ [] := fun none => by
      obtain ⟨b, member, other⟩ := solid
      simp [blanks none b member] at other
    rw [List.reverse_reverse, Option.bind_some, ofTokens?_append v some]

theorem getLast?_memberTokens (ms : List (List Glyph × Json)) :
    (memberTokens ms).getLast? = some .endObject := by
  induction ms with
  | nil => rfl
  | cons m ms ih =>
    obtain ⟨key, v⟩ := m
    rw [memberTokens, List.getLast?_append, ih, Option.some_or]

theorem getLast?_tokens_object (ms : List (List Glyph × Json)) :
    (Json.object ms).tokens.getLast? = some .endObject := by
  cases ms with
  | nil => rfl
  | cons m ms =>
    obtain ⟨key, v⟩ := m
    rw [tokens, List.getLast?_append, getLast?_memberTokens, Option.some_or]

theorem IsText.parse?_object_append {ms : List (List Glyph × Json)} (h : (Json.object ms).IsText bs)
    (solid : ∃ b ∈ junk, Token.isBlank b = false) : parse? (bs ++ junk) = none :=
  h.parse?_append (by simp [getLast?_tokens_object, Token.isNumber]) solid

end Parsing

end TitleDock.Json
