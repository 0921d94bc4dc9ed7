import HttpExchange.Cookie
import HttpExchange.Text.Decimal
import HttpExchange.Text.Search
import Mathlib

/-! What a `Set-Cookie` value tells of its cookie. The value falls apart at its semicolons into the
cookie's name and value and into attributes, each of which has its own first letter. -/

namespace HttpExchange.Cookie

/-! ## Attributes -/

/-- What a `Set-Cookie` value can say of a cookie besides its name and value. -/
inductive Attribute
  | path (value : String)
  | domain (value : String)
  | maxAge (seconds : Int64)
  | secure
  | httpOnly

namespace Attribute

def text : Attribute → String
  | .path value => "Path=" ++ value
  | .domain value => "Domain=" ++ value
  | .maxAge seconds => "Max-Age=" ++ toString seconds.toInt
  | .secure => "Secure"
  | .httpOnly => "HttpOnly"

/-- The letter that tells the kind of an attribute. -/
def letter : Attribute → Char
  | .path _ => 'P'
  | .domain _ => 'D'
  | .maxAge _ => 'M'
  | .secure => 'S'
  | .httpOnly => 'H'

theorem head?_text (part : Attribute) : part.text.toList.head? = some part.letter := by
  cases part <;> simp [text, letter]

theorem text_injective : Function.Injective text := by
  intro left right same
  have letters : left.letter = right.letter := by
    apply Option.some.inj
    rw [← head?_text, ← head?_text, same]
  cases left with
  | path value =>
      cases right with
      | path other => exact congrArg path (String.append_right_inj "Path=" |>.mp same)
      | _ => simp [letter] at letters
  | domain value =>
      cases right with
      | domain other => exact congrArg domain (String.append_right_inj "Domain=" |>.mp same)
      | _ => simp [letter] at letters
  | maxAge seconds =>
      cases right with
      | maxAge other =>
          have numerals := String.append_right_inj "Max-Age=" |>.mp same
          exact congrArg maxAge (Int64.toInt_inj.mp (Int.repr_injective numerals))
      | _ => simp [letter] at letters
  | secure =>
      cases right with
      | secure => rfl
      | _ => simp [letter] at letters
  | httpOnly =>
      cases right with
      | httpOnly => rfl
      | _ => simp [letter] at letters

end Attribute

/-- The attributes of a cookie in the order in which they are written. -/
def shown (cookie : Cookie) : List Attribute :=
  [.path cookie.path] ++ (cookie.domain.map .domain).toList ++
    (cookie.maxAge.map .maxAge).toList ++
    (if cookie.secure then [.secure] else []) ++
    (if cookie.httpOnly then [.httpOnly] else [])

theorem attributes_eq_map_shown (cookie : Cookie) :
    cookie.attributes = cookie.shown.map Attribute.text := by
  rw [attributes, shown]
  simp only [List.map_append, Option.toList_map, List.map_map, apply_ite (List.map Attribute.text)]
  rfl

/-- The cookie is as the attribute says. -/
def Shows (cookie : Cookie) : Attribute → Prop
  | .path value => value = cookie.path
  | .domain value => cookie.domain = some value
  | .maxAge seconds => cookie.maxAge = some seconds
  | .secure => cookie.secure = true
  | .httpOnly => cookie.httpOnly = true

theorem mem_shown_iff (cookie : Cookie) (part : Attribute) :
    part ∈ cookie.shown ↔ cookie.Shows part := by
  cases part <;> simp [shown, Shows]

/-- Cookies that show the same attributes agree on all that attributes tell. -/
theorem fields_eq_of_shown_eq {first second : Cookie} (same : first.shown = second.shown) :
    first.path = second.path ∧ first.domain = second.domain ∧ first.maxAge = second.maxAge ∧
      first.secure = second.secure ∧ first.httpOnly = second.httpOnly := by
  have agree : ∀ part, first.Shows part ↔ second.Shows part := by
    intro part
    rw [← mem_shown_iff, ← mem_shown_iff, same]
  refine ⟨?_, ?_, ?_, ?_, ?_⟩
  · exact (agree (.path first.path)).mp rfl
  · apply Option.ext
    intro value
    exact agree (.domain value)
  · apply Option.ext
    intro seconds
    exact agree (.maxAge seconds)
  · exact Bool.eq_iff_iff.mpr (agree .secure)
  · exact Bool.eq_iff_iff.mpr (agree .httpOnly)

/-! ## The parts of a value -/

/-- No semicolon is inside a part of the cookie's value, and no equals sign inside its name. -/
structure IsSeparable (cookie : Cookie) : Prop where
  name : ';' ∉ cookie.name.toList ∧ '=' ∉ cookie.name.toList
  value : ';' ∉ cookie.value.toList
  path : ';' ∉ cookie.path.toList
  domain : ∀ domain ∈ cookie.domain, ';' ∉ domain.toList

theorem semicolon_not_mem_toString (number : Int) : ';' ∉ (toString number).toList := by
  have digits : ∀ natural : Nat, ';' ∉ natural.repr.toList := fun natural member =>
    absurd (Text.isDigit_of_mem_toString member) (by decide)
  rw [Int.toString_eq_repr, Int.repr_eq_if]
  split
  · exact digits _
  · rw [String.toList_append, List.mem_append, not_or]
    exact ⟨by decide, digits _⟩

theorem IsSeparable.semicolon_not_mem_text {cookie : Cookie} (separable : cookie.IsSeparable)
    {part : Attribute} (shows : cookie.Shows part) : ';' ∉ part.text.toList := by
  have behind : ∀ label value : String, ';' ∉ label.toList → ';' ∉ value.toList →
      ';' ∉ (label ++ value).toList := by
    intro label value labelled valued
    rw [String.toList_append, List.mem_append, not_or]
    exact ⟨labelled, valued⟩
  cases part with
  | path value =>
      cases shows
      exact behind _ _ (by decide) separable.path
  | domain value => exact behind _ _ (by decide) (separable.domain value shows)
  | maxAge seconds => exact behind _ _ (by decide) (semicolon_not_mem_toString _)
  | secure => decide
  | httpOnly => decide

/-- The text before the attributes. -/
def heading (cookie : Cookie) : String :=
  cookie.name ++ "=" ++ cookie.value

theorem toList_render (cookie : Cookie) :
    cookie.render.toList =
      [';'].intercalate
        (cookie.heading.toList :: cookie.shown.map fun part => ' ' :: part.text.toList) := by
  rw [render, attributes_eq_map_shown, ← heading, String.toList_append]
  generalize cookie.heading.toList = front
  induction cookie.shown generalizing front with
  | nil => simp
  | cons part parts induction =>
      rw [List.map_cons, List.map_cons, List.intercalate_cons_cons, ← induction, List.foldr_cons,
        String.toList_append, String.toList_append, List.append_assoc front]
      rfl

theorem splitOn_render {cookie : Cookie} (separable : cookie.IsSeparable) :
    cookie.render.toList.splitOn ';' =
      cookie.heading.toList :: cookie.shown.map fun part => ' ' :: part.text.toList := by
  rw [toList_render]
  apply List.splitOn_intercalate
  · intro front member
    rcases List.mem_cons.mp member with rfl | member
    · simp [heading, separable.name.1, separable.value]
    · rcases List.mem_map.mp member with ⟨part, shown, rfl⟩
      have kept := separable.semicolon_not_mem_text ((mem_shown_iff cookie part).mp shown)
      simpa using kept
  · exact List.cons_ne_nil _ _

theorem cut?_heading {cookie : Cookie} (separable : cookie.IsSeparable) :
    Text.cut? '=' cookie.heading.toList = some (cookie.name.toList, cookie.value.toList) := by
  have shape : cookie.heading.toList = cookie.name.toList ++ '=' :: cookie.value.toList := by
    rw [heading, String.toList_append, String.toList_append, List.append_assoc]
    rfl
  rw [shape]
  exact Text.cut?_append_cons separable.name.2 _

/-- A `Set-Cookie` value determines all of its cookie but whether errors keep it: two cookies have
the same value exactly if they agree on everything else. -/
theorem render_eq_iff {first second : Cookie} (separable : first.IsSeparable)
    (alsoSeparable : second.IsSeparable) :
    first.render = second.render ↔
      first.name = second.name ∧ first.value = second.value ∧ first.path = second.path ∧
        first.domain = second.domain ∧ first.maxAge = second.maxAge ∧
        first.secure = second.secure ∧ first.httpOnly = second.httpOnly := by
  constructor
  · intro same
    have parts := splitOn_render separable
    rw [same, splitOn_render alsoSeparable, List.cons.injEq] at parts
    rcases parts with ⟨headings, attributes⟩
    have cuts := cut?_heading separable
    rw [← headings, cut?_heading alsoSeparable] at cuts
    simp only [Option.some.injEq, Prod.mk.injEq, String.toList_inj] at cuts
    have texts : Function.Injective fun part : Attribute => ' ' :: part.text.toList := by
      intro left right equal
      exact Attribute.text_injective (String.toList_inj.mp (List.cons.inj equal).2)
    exact ⟨cuts.1.symm, cuts.2.symm, fields_eq_of_shown_eq (texts.list_map attributes.symm)⟩
  · intro agree
    rcases agree with ⟨name, value, path, domain, maxAge, secure, httpOnly⟩
    simp only [render, attributes, name, value, path, domain, maxAge, secure, httpOnly]

/-- A cookie whose value looks like attributes and whose domain is there but empty. -/
def disguised : Cookie where
  name := "sid"
  value := "a=b, Path=/, Secure"
  domain := some ""
  maxAge := some (-5)
  httpOnly := true

/-- Leaving the domain out shows, and so does the sign of the lifetime. What errors do with the
cookie does not. -/
theorem render_eq_iff_disguised :
    disguised.IsSeparable ∧
    disguised.render ≠ { disguised with domain := none }.render ∧
    disguised.render ≠ { disguised with maxAge := some 5 }.render ∧
    disguised.render = { disguised with sendOnError := true }.render := by
  have separable : disguised.IsSeparable :=
    ⟨by decide, by decide, by decide, by decide⟩
  have undomained : { disguised with domain := none }.IsSeparable :=
    ⟨separable.name, separable.value, separable.path, by simp⟩
  have longer : { disguised with maxAge := some 5 }.IsSeparable :=
    ⟨separable.name, separable.value, separable.path, separable.domain⟩
  have marked : { disguised with sendOnError := true }.IsSeparable :=
    ⟨separable.name, separable.value, separable.path, separable.domain⟩
  refine ⟨separable, ?_, ?_, ?_⟩
  · intro same
    rcases (render_eq_iff separable undomained).mp same with ⟨_, _, _, domain, _⟩
    cases domain
  · intro same
    rcases (render_eq_iff separable longer).mp same with ⟨_, _, _, _, maxAge, _⟩
    exact absurd maxAge (by decide)
  · apply (render_eq_iff separable marked).mpr
    exact ⟨rfl, rfl, rfl, rfl, rfl, rfl, rfl⟩

end HttpExchange.Cookie
