import HttpExchange.Method
import HttpExchange.Proofs.LetterCase

/-! Methods and their texts. Reading a method keeps its text in one form, without outer white space and
in upper case, and the text says all about the method: texts that look different in that form are
different methods, and the texts of standard methods are never kept as other ones. -/

namespace HttpExchange.Method

open Text

/-- The method has a constructor of its own. -/
def IsStandard : Method → Prop
  | .other _ => False
  | _ => True

/-! ## Forms -/

theorem toList_text_parse (token : String) :
    (parse token).text.toList = upper (trim token.toList) := by
  have kept : (parse token).text = String.ofList (upper (trim token.toList)) := by
    rw [parse]
    generalize String.ofList (upper (trim token.toList)) = form
    -- Each name that is looked for is the text of the method that it stands for.
    split <;> rfl
  rw [kept, String.toList_ofList]

/-- A method is read off the form of its token alone. -/
theorem parse_congr {left right : String}
    (same : upper (trim left.toList) = upper (trim right.toList)) : parse left = parse right := by
  rw [parse, same, parse]

theorem parse_text_parse (token : String) : parse (parse token).text = parse token := by
  apply parse_congr
  calc
    upper (trim (parse token).text.toList)
      = upper (trim (upper (trim token.toList))) := by rw [toList_text_parse]
    _ = upper (upper (trim (trim token.toList))) := by rw [trim_upper]
    _ = upper (trim token.toList) := by rw [upper_upper, trim_trim]

theorem parse_eq_parse_iff {left right : String} :
    parse left = parse right ↔ (parse left).text = (parse right).text := by
  constructor
  · exact congrArg text
  · intro same
    apply parse_congr
    rw [← toList_text_parse, same, toList_text_parse]

/-! ## Standard methods -/

section

variable {method : Method} (standard : method.IsStandard)

include standard

theorem IsStandard.isUpper_of_mem_text :
    ∀ letter ∈ method.text.toList, letter.isUpper = true := by
  cases method with
  | other token => cases standard
  | _ => simp [text, Char.isUpper]

theorem IsStandard.upper_text : upper method.text.toList = method.text.toList := by
  apply upper_eq_self
  intro letter member
  have capital := standard.isUpper_of_mem_text letter member
  exact Bool.eq_false_iff.mpr (Char.not_isLower_of_isUpper capital)

theorem IsStandard.shown_text : ∀ letter ∈ method.text.toList, isWhiteSpace letter = false := by
  intro letter member
  apply isWhiteSpace_of_isAlpha
  rw [Char.isAlpha, standard.isUpper_of_mem_text letter member, Bool.true_or]

theorem parse_text_of_isStandard : parse method.text = method := by
  have form : String.ofList (upper (trim method.text.toList)) = method.text := by
    rw [trim_of_no_space standard.shown_text, standard.upper_text, String.ofList_toList]
  rw [parse, form]
  cases method with
  | other token => cases standard
  | _ => rfl

/-- A token with the text of a standard method is read as that method. -/
theorem parse_eq_iff_text_eq {token : String} :
    parse token = method ↔ (parse token).text = method.text := by
  constructor
  · exact congrArg text
  · intro same
    rw [← parse_text_parse, same, parse_text_of_isStandard standard]

theorem parse_eq_iff_spells {token : String} :
    parse token = method ↔ Spells method.text token := by
  rw [parse_eq_iff_text_eq standard, spells_iff standard.shown_text, ← upper_eq_upper_iff,
    standard.upper_text, ← toList_text_parse, String.toList_inj]

theorem parse_ne_other_text (token : String) : parse token ≠ .other method.text := by
  intro kept
  have same : (parse token).text = method.text := by rw [kept, text]
  have known := (parse_eq_iff_text_eq standard).mpr same
  rw [← known, kept] at standard
  exact standard

end

/-- Methods are known by their texts. The text of a method is its token without outer white space and
in upper case, and is read as the same method again. Two tokens are the same method exactly if their
methods have the same text. A standard method is read from every token that spells its text, and from
no other one; and no token is kept as another method with that text. -/
theorem methods_are_known_by_their_texts :
    (∀ token, (parse token).text.toList = upper (trim token.toList) ∧
      parse (parse token).text = parse token) ∧
    (∀ left right, parse left = parse right ↔ (parse left).text = (parse right).text) ∧
    ∀ method : Method, method.IsStandard → ∀ token,
      (parse token = method ↔ Spells method.text token) ∧ parse token ≠ .other method.text := by
  refine ⟨fun token => ⟨toList_text_parse token, parse_text_parse token⟩,
    fun left right => parse_eq_parse_iff, fun method standard token => ⟨?_, ?_⟩⟩
  · exact parse_eq_iff_spells standard
  · exact parse_ne_other_text standard token

/-- A patch may be spelled with room around it. A token that only begins with its name is a method of
its own, and so is one whose last letter just looks like one of ASCII. -/
theorem methods_are_known_by_their_texts_patch :
    IsStandard .patch ∧ Spells "PATCH" "\u00a0pAtCh\r\n" ∧ parse "\u00a0pAtCh\r\n" = .patch ∧
      parse "patched" ≠ parse "patch" ∧ parse "patched" ≠ .patch ∧
      parse "patc\u04bb" ≠ .other "PATCH" := by
  rcases methods_are_known_by_their_texts with ⟨forms, distinct, standards⟩
  have isStandard : IsStandard .patch := trivial
  have spelled : Spells "PATCH" "\u00a0pAtCh\r\n" :=
    ⟨['\u00a0'], "pAtCh".toList, ['\r', '\n'], by simp, by simp [IsBlank, isWhiteSpace],
      by simp [IsBlank, isWhiteSpace], by decide⟩
  have other : parse "patched" ≠ parse "patch" := by
    intro same
    have texts := congrArg String.toList ((distinct "patched" "patch").mp same)
    rw [(forms "patched").1, (forms "patch").1] at texts
    exact absurd texts (by decide)
  have plain : parse "patch" = .patch :=
    (standards .patch isStandard "patch").1.mpr
      ⟨[], "patch".toList, [], by simp, by simp [IsBlank], by simp [IsBlank], by decide⟩
  exact ⟨isStandard, spelled, (standards .patch isStandard _).1.mpr spelled, other,
    fun same => other (same.trans plain.symm), (standards .patch isStandard _).2⟩

end HttpExchange.Method
