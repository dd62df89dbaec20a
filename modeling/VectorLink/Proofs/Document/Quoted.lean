import VectorLink.Proofs.Document.Grammar

/-! Unquoting reads exactly the texts in quotes, and gives the characters that they write. -/

set_option autoImplicit false

namespace VectorLink.Document

theorem isShort_four (a b c d : Char) (rest : List Char) :
    isShort (a :: b :: c :: d :: rest) = false := by
  have := a.utf8Size_pos
  have := b.utf8Size_pos
  have := c.utf8Size_pos
  have := d.utf8Size_pos
  simp only [isShort, List.take_succ_cons, List.take_zero, List.foldl_cons, List.foldl_nil]
  exact decide_eq_false (by omega)

theorem HexWord.not_short {text rest : List Char} {word : Nat} (digits : HexWord text word rest) :
    isShort text = false := by
  cases digits
  exact isShort_four ..

theorem hexWord_eq_ok {text rest : List Char} {word : Nat} :
    hexWord text = .ok (word, rest) ↔ HexWord text word rest := by
  constructor
  · intro read
    revert read
    fun_cases hexWord text with
    | case2 a b c d after first second third fourth isFourth isThird isSecond isFirst long =>
      rintro ⟨⟩
      exact .digits isFirst isSecond isThird isFourth
    | case1 | case3 | case4 =>
      intro read
      cases read
  · rintro ⟨first, second, third, fourth⟩
    simp only [hexWord, isShort_four, first, second, third, fourth, Bool.false_eq_true, if_false]

theorem Escape.of_numbered {text rest : List Char} {char : Char}
    (read : numbered text = .ok (char, rest)) : Escape ('u' :: text) char rest := by
  revert read
  fun_cases numbered text with
  | case6 leading notTrailing isLeading second trailing after readSecond isTrailing readFirst =>
    intro same
    injection same with same
    injection same with isChar isRest
    subst isChar isRest
    exact .halves (hexWord_eq_ok.mp readFirst) (hexWord_eq_ok.mp readSecond) isLeading isTrailing
  | case9 word after readWord notTrailing notLeading =>
    rintro ⟨⟩
    exact .basic (hexWord_eq_ok.mp readWord) (eq_false_of_ne_true notLeading)
      (eq_false_of_ne_true notTrailing)
  | case1 | case2 | case3 | case4 | case5 | case7 | case8 =>
    intro read
    cases read

theorem isTrailing_of_isLeading {word : Nat} (leads : isLeading word = true) :
    isTrailing word = false := by
  simp only [isLeading, isTrailing, Bool.and_eq_true, decide_eq_true_eq,
    Bool.and_eq_false_iff, decide_eq_false_iff_not] at leads ⊢
  omega

theorem escaped_eq_ok {text rest : List Char} {char : Char} :
    escaped text = .ok (char, rest) ↔ Escape text char rest := by
  constructor
  · intro read
    revert read
    fun_cases escaped text with
    | case2 after => exact .of_numbered
    | case3 letter after notNumbered meant means =>
      rintro ⟨⟩
      exact .letter means
    | case1 | case4 =>
      intro read
      cases read
  · intro escape
    cases escape with
    | @letter letter char rest means =>
      have notNumbered : letter ≠ 'u' := by
        rintro rfl
        cases means
      simp only [escaped, if_neg notNumbered, means]
    | basic digits notLeading notTrailing =>
      simp only [escaped, if_true, numbered, hexWord_eq_ok.mpr digits, notLeading, notTrailing,
        Bool.false_eq_true, if_false]
    | halves first second isLeading isTrailing =>
      simp only [escaped, if_true, numbered, hexWord_eq_ok.mpr first, isLeading, isTrailing,
        isTrailing_of_isLeading isLeading, Bool.false_eq_true, if_false,
        hexWord_eq_ok.mpr second]

theorem Quoted.of_unquote {seen text rest : List Char} {value : String}
    (read : unquote seen text = .ok (value, rest)) :
    ∃ chars, Quoted text chars rest ∧ value = .ofList (seen.reverse ++ chars) := by
  revert read
  fun_induction unquote seen text with
  | case2 seen after =>
    rintro ⟨⟩
    exact ⟨[], .closed rest, by rw [List.append_nil]⟩
  | case4 seen text char after step ih =>
    intro read
    obtain ⟨chars, quoted, rfl⟩ := ih read
    refine ⟨char :: chars, .escaped (escaped_eq_ok.mp step) quoted, ?_⟩
    rw [List.reverse_cons, List.append_assoc]
    rfl
  | case6 seen char text notClosing notEscaped printed ih =>
    intro read
    obtain ⟨chars, quoted, rfl⟩ := ih read
    refine ⟨char :: chars, .plain notClosing notEscaped (Nat.le_of_not_lt printed) quoted, ?_⟩
    rw [List.reverse_cons, List.append_assoc]
    rfl
  | case1 | case3 | case5 =>
    intro read
    cases read

theorem unquote_escape {text after : List Char} {char : Char}
    (step : escaped text = .ok (char, after)) (seen : List Char) :
    unquote seen ('\\' :: text) = unquote (char :: seen) after := by
  rw [unquote]
  split
  · rename_i failed
    rw [step] at failed
    cases failed
  · rename_i read
    rw [step] at read
    cases read
    rfl

theorem Quoted.unquote {text chars rest : List Char} (quoted : Quoted text chars rest)
    (seen : List Char) :
    unquote seen text = .ok (.ofList (seen.reverse ++ chars), rest) := by
  induction quoted generalizing seen with
  | closed rest => rw [Document.unquote, List.append_nil]
  | @plain char text chars rest notClosing notEscaped printed _ ih =>
    rw [Document.unquote, if_neg (Nat.not_lt_of_le printed), ih, List.reverse_cons,
      List.append_assoc]
    · rfl
    · exact notClosing
    · exact fun escaped => notEscaped escaped
  | escaped escape _ ih =>
    rw [unquote_escape (escaped_eq_ok.mpr escape), ih, List.reverse_cons, List.append_assoc]
    rfl

/-- Unquoting reads the texts in quotes, and no others. -/
theorem unquote_eq_ok {text rest : List Char} {value : String} :
    unquote [] text = .ok (value, rest) ↔ Quoted text value.toList rest := by
  constructor
  · intro read
    obtain ⟨chars, quoted, rfl⟩ := Quoted.of_unquote read
    rwa [List.reverse_nil, List.nil_append, String.toList_ofList]
  · intro quoted
    rw [quoted.unquote, List.reverse_nil, List.nil_append, String.ofList_toList]

end VectorLink.Document
