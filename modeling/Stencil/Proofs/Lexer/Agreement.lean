import Stencil.Lexer.Scan
/-!
# Bytes that begin alike

Two rests of sources agree to a number of bytes. What a scan reads of one it reads of the other, as
long as the bytes it looks at are within that number; a token of the expression language looks at
the byte after it and, beyond a point, at one more (`expression_of_agree`).
-/

namespace Stencil
namespace Scan

/-- Two lists of bytes begin with the same bytes, so many of them, or are equal. -/
def Agree (size : Nat) (left right : List UInt8) : Prop := left.take size = right.take size

instance (size : Nat) (left right : List UInt8) : Decidable (Agree size left right) :=
  inferInstanceAs (Decidable (left.take size = right.take size))

section

variable {size : Nat} {left right : List UInt8}

/-- Any two lists agree on no bytes. -/
theorem Agree.zero (left right : List UInt8) : Agree 0 left right := by
  rw [Agree, List.take_zero, List.take_zero]

/-- Agreement goes both ways. -/
theorem Agree.symm (agree : Agree size left right) : Agree size right left := Eq.symm agree

/-- Fewer bytes are the same all the more. -/
theorem Agree.take (agree : Agree size left right) {count : Nat} (few : count ≤ size) :
    left.take count = right.take count := by
  have cut := congrArg (List.take count) agree
  rwa [List.take_take, List.take_take, Nat.min_eq_left few] at cut

/-- After the same number of bytes the rests agree to what is left. -/
theorem Agree.drop (agree : Agree size left right) (count : Nat) :
    Agree (size - count) (left.drop count) (right.drop count) := by
  have cut := congrArg (List.drop count) agree
  rwa [List.drop_take, List.drop_take] at cut

/-- A byte within the agreement is the same. -/
theorem Agree.getElem? (agree : Agree size left right) {place : Nat} (inside : place < size) :
    left[place]? = right[place]? := by
  have same := congrArg (fun bytes => bytes[place]?) agree
  simpa only [List.getElem?_take_of_lt inside] using same

/-- Lists that agree begin alike. -/
theorem Agree.head? (agree : Agree size left right) (some : 0 < size) :
    left.head? = right.head? := by
  have same := agree.getElem? some
  rwa [← List.head?_eq_getElem?, ← List.head?_eq_getElem?] at same

/-- Lists that agree are equally long, as far as the agreement goes. -/
theorem Agree.length (agree : Agree size left right) :
    min size left.length = min size right.length := by
  have same := congrArg List.length agree
  rwa [List.length_take, List.length_take] at same

/-- Agreement on a list that ends before is equality. -/
theorem Agree.eq_of_length_lt (agree : Agree size left right) (short : left.length < size) :
    right = left := by
  have length := agree.length
  have whole : right.length ≤ size := by omega
  rw [Agree, List.take_of_length_le (by omega), List.take_of_length_le whole] at agree
  exact agree.symm

/-- Agreement that goes beyond the end of one list leaves nothing of the other either. -/
theorem Agree.of_nil (agree : Agree size [] right) (some : 0 < size) : right = [] :=
  agree.eq_of_length_lt some

/-- Agreement on a byte and what follows it. -/
theorem Agree.of_cons {first : UInt8} {rest : List UInt8}
    (agree : Agree (size + 1) (first :: rest) right) :
    ∃ rest', right = first :: rest' ∧ Agree size rest rest' := by
  cases right with
  | nil => rw [Agree, List.take_succ_cons, List.take_nil] at agree; contradiction
  | cons other rest' =>
    rw [Agree, List.take_succ_cons, List.take_succ_cons] at agree
    obtain ⟨rfl, same⟩ := List.cons.inj agree
    exact ⟨rest', rfl, same⟩

/-- A prefix within the agreement is one of both or of none. -/
theorem isPrefixOf_of_agree (agree : Agree size left right) {mark : List UInt8}
    (few : mark.length ≤ size) : mark.isPrefixOf right = mark.isPrefixOf left := by
  rw [Bool.eq_iff_iff, List.isPrefixOf_iff_prefix, List.isPrefixOf_iff_prefix,
    List.prefix_iff_eq_take, List.prefix_iff_eq_take, agree.take few]

/-- A mark within the agreement leads both or none. -/
theorem leads_of_agree (agree : Agree size left right) {mark : List UInt8}
    (few : mark.length ≤ size) : leads mark right = leads mark left := by
  rw [leads, leads, isPrefixOf_of_agree agree few]

/-- Where bytes agree, a line ends in both or in neither. -/
theorem atLineFeed_of_agree (agree : Agree size left right) (some : 0 < size) :
    atLineFeed right = atLineFeed left := by
  rw [atLineFeed, atLineFeed, agree.head? some]

/-! ### Runs -/

/-- A span that ends within the agreement is the same. -/
theorem takeWhile_of_agree (inClass : UInt8 → Bool) (agree : Agree size left right)
    (short : (left.takeWhile inClass).length < size) :
    right.takeWhile inClass = left.takeWhile inClass := by
  induction left generalizing size right with
  | nil => rw [agree.of_nil (by omega)]
  | cons first rest ih =>
    obtain ⟨fewer, rfl⟩ : ∃ fewer, size = fewer + 1 := ⟨size - 1, by omega⟩
    obtain ⟨rest', rfl, same⟩ := agree.of_cons
    rw [List.takeWhile_cons] at short
    rw [List.takeWhile_cons, List.takeWhile_cons]
    by_cases member : inClass first = true
    · rw [if_pos member] at short ⊢
      rw [List.length_cons] at short
      rw [if_pos member, ih same (by omega)]
    · rw [if_neg member, if_neg member]

/-- Where bytes agree beyond a span, the spans are equal. -/
theorem spanOf_of_agree (inClass : UInt8 → Bool) (agree : Agree size left right)
    (short : spanOf inClass left < size) : spanOf inClass right = spanOf inClass left := by
  rw [spanOf, spanOf, takeWhile_of_agree inClass agree short]

/-- A run that ends within the agreement is the same, if at each of its places, the end included,
both or none may stop. -/
theorem run_of_agree {stop : List UInt8 → Bool} (agree : Agree size left right)
    (short : run stop left < size)
    (same : ∀ place ≤ run stop left, stop (right.drop place) = stop (left.drop place)) :
    run stop right = run stop left := by
  induction left generalizing size right with
  | nil => rw [agree.of_nil (by omega)]
  | cons first rest ih =>
    obtain ⟨fewer, rfl⟩ : ∃ fewer, size = fewer + 1 := ⟨size - 1, by omega⟩
    obtain ⟨rest', rfl, further⟩ := agree.of_cons
    have here := same 0 (Nat.zero_le _)
    rw [List.drop_zero, List.drop_zero] at here
    rw [run_cons] at short same
    rw [run_cons, run_cons, here]
    by_cases stops : stop (first :: rest) = true
    · rw [if_pos stops, if_pos stops]
    · rw [if_neg stops] at short same ⊢
      rw [if_neg stops, ih further (by omega)]
      intro place inside
      exact same (place + 1) (by omega)

/-- A string that ends within the agreement is the same. -/
theorem stringFrom_of_agree (quote : UInt8) (pending count : Nat) (agree : Agree size left right)
    (short : stringFrom quote pending count left < count + size) :
    stringFrom quote pending count right = stringFrom quote pending count left := by
  induction left generalizing size right pending count with
  | nil =>
    rw [stringFrom] at short
    rw [agree.of_nil (by omega)]
  | cons first rest ih =>
    have least := (stringFrom_bounds quote pending count (first :: rest)).1
    obtain ⟨fewer, rfl⟩ : ∃ fewer, size = fewer + 1 := ⟨size - 1, by omega⟩
    obtain ⟨rest', rfl, further⟩ := agree.of_cons
    unfold stringFrom at short ⊢
    cases pending with
    | succ pending => exact ih pending (count + 1) further (by dsimp only at short; omega)
    | zero =>
      dsimp only at short ⊢
      by_cases closed : first = quote
      · rw [if_pos closed, if_pos closed]
      · rw [if_neg closed] at short ⊢
        rw [if_neg closed]
        by_cases escape : first = 92
        · rw [if_pos escape] at short ⊢
          have some := (stringFrom_bounds quote ((rest.head?.map charWidth).getD 0) (count + 1)
            rest).1
          rw [if_pos escape, ← further.head? (by omega)]
          exact ih _ (count + 1) further (by omega)
        · rw [if_neg escape] at short ⊢
          rw [if_neg escape]
          exact ih 0 (count + 1) further (by omega)

/-! ### The expression language -/

/-- The digits before a point belong to the number. -/
theorem spanOf_le_number (mode : Mode) (rawPending : Bool) (rest : List UInt8) :
    spanOf isDigit rest ≤ (number mode rawPending rest).width := by
  unfold number
  dsimp only
  split
  · split
    · dsimp only
      omega
    · exact Nat.le_refl _
  · exact Nat.le_refl _

/-- A number is the same if the byte after it is, and the byte beyond a point. -/
theorem number_of_agree (mode : Mode) (rawPending : Bool) (agree : Agree size left right)
    (short : (number mode rawPending left).width < size)
    (point : left[(number mode rawPending left).width]? = some 46 →
      (number mode rawPending left).width + 1 < size) :
    number mode rawPending right = number mode rawPending left := by
  have whole := spanOf_le_number mode rawPending left
  have same := spanOf_of_agree isDigit agree (by omega)
  have beyond := agree.drop (spanOf isDigit left)
  obtain ⟨fewer, more⟩ : ∃ fewer, size - spanOf isDigit left = fewer + 1 :=
    ⟨size - spanOf isDigit left - 1, by omega⟩
  rw [more] at beyond
  unfold number at short point ⊢
  dsimp only at short point ⊢
  rw [same]
  cases rest : left.drop (spanOf isDigit left) with
  | nil =>
    rw [rest] at beyond
    rw [beyond.of_nil (by omega)]
  | cons first fraction =>
    rw [rest] at beyond short point
    obtain ⟨fraction', found, further⟩ := beyond.of_cons
    rw [found]
    dsimp only at short point ⊢
    by_cases dot : first = 46
    · have seen : left[spanOf isDigit left]? = some 46 := by
        rw [← List.head?_drop, rest, dot]
        rfl
      have two : 0 < fewer := by
        by_cases float : (decide (first = 46) && fraction.head?.any isDigit) = true
        · rw [if_pos float] at short
          dsimp only at short
          omega
        · rw [if_neg float] at point
          have later : spanOf isDigit left + 1 < size := point seen
          omega
      rw [further.head? two]
      by_cases float : (decide (first = 46) && fraction'.head?.any isDigit) = true
      · rw [further.head? two, if_pos float] at short
        dsimp only at short
        rw [if_pos float, if_pos float, spanOf_of_agree isDigit further (by omega)]
      · rw [if_neg float, if_neg float]
    · rw [decide_eq_false dot]
      rfl

/-- Operators of two characters are told by two bytes. -/
theorem pairOperator?_of_agree (agree : Agree size left right) (two : 2 ≤ size) :
    pairOperator? right = pairOperator? left := by
  have same (entry : List UInt8 × Operator) (member : entry ∈ pairMarks) :
      entry.1.isPrefixOf right = entry.1.isPrefixOf left :=
    isPrefixOf_of_agree agree (length_of_pairMarks entry member ▸ two)
  rw [pairOperator?, pairOperator?, ← List.head?_filter, ← List.head?_filter,
    List.filter_congr same]

/-- A word is the same if the byte after it is. -/
theorem word_of_agree (mode : Mode) (rawPending : Bool) (agree : Agree size left right)
    (short : (word mode rawPending left).width < size) :
    word mode rawPending right = word mode rawPending left := by
  have same := takeWhile_of_agree inWord agree short
  unfold word
  rw [same]

/-- A token of the expression language is the same if the byte after it is, and the byte beyond a
point. -/
theorem expression_of_agree (mode : Mode) (rawPending : Bool) (agree : Agree size left right)
    (short : (expression mode rawPending left).width < size)
    (point : left[(expression mode rawPending left).width]? = some 46 →
      (expression mode rawPending left).width + 1 < size) :
    expression mode rawPending right = expression mode rawPending left := by
  cases left with
  | nil => rw [agree.of_nil (by omega)]
  | cons first rest =>
    have fits := (expression_fits mode rawPending (List.cons_ne_nil first rest)).1
    have operator := pairOperator?_of_agree agree (by omega)
    have lengths := agree.length
    obtain ⟨fewer, rfl⟩ : ∃ fewer, size = fewer + 1 := ⟨size - 1, by omega⟩
    have whole := agree
    obtain ⟨rest', rfl, further⟩ := agree.of_cons
    rw [List.length_cons, List.length_cons] at lengths
    unfold expression at short ⊢
    dsimp only at short ⊢
    rw [operator]
    split at short
    next space =>
      dsimp only at short
      rw [if_pos space, if_pos space, spanOf_of_agree _ whole (by omega)]
    next solid =>
      rw [if_neg solid, if_neg solid]
      cases found : pairOperator? (first :: rest) with
      | some operator => rfl
      | none =>
        rw [found] at short
        dsimp only at short ⊢
        cases mark : TokenKind.ofMark? (Char.ofNat first.toNat) with
        | some kind => rfl
        | none =>
          rw [mark] at short
          dsimp only at short ⊢
          split at short
          next quote =>
            dsimp only at short
            rw [if_pos quote, if_pos quote, stringFrom_of_agree first 0 1 further (by omega)]
          next plain =>
            rw [if_neg plain, if_neg plain]
            split at short
            next digit =>
              have here : expression mode rawPending (first :: rest) =
                  number mode rawPending (first :: rest) := by
                unfold expression
                dsimp only
                rw [if_neg solid, found]
                dsimp only
                rw [mark]
                dsimp only
                rw [if_neg plain, if_pos digit]
              rw [here] at point
              rw [if_pos digit, if_pos digit, number_of_agree mode rawPending whole short point]
            next other =>
              rw [if_neg other, if_neg other]
              split at short
              next letter =>
                rw [if_pos letter, if_pos letter, word_of_agree mode rawPending whole (by omega)]
              next strange =>
                dsimp only at short
                rw [List.length_cons] at short
                rw [if_neg strange, if_neg strange, List.length_cons, List.length_cons,
                  show min (charWidth first) (rest'.length + 1) =
                    min (charWidth first) (rest.length + 1) by omega]

end

end Scan
end Stencil
