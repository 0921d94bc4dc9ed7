import HttpExchange.Format
import HttpExchange.Proofs.Joining

/-! The format that an `Accept` value asks for, entry by entry. No name of a format holds a comma, so
a name is found in the whole value exactly where one of its entries holds it. The best format that
any entry asks for is chosen, wherever the entry stands and however often it is repeated. -/

namespace HttpExchange.Format

/-! ## What entries ask for -/

/-- The place of a format among those that are asked for, the best one highest. -/
def rank : Format → Nat
  | html => 3
  | xml => 2
  | txt => 1
  | json => 0

/-- The text stands somewhere in the entry. -/
def Holds (entry text : String) : Prop :=
  text.toList <:+: entry.toList

instance (entry text : String) : Decidable (Holds entry text) :=
  decidable_of_iff _ Text.occurs_iff_isInfix

/-- The entry holds one of the media types by which clients know the format. -/
def IsNamedBy : Format → String → Prop
  | html, entry => Holds entry "application/xhtml" ∨ Holds entry "text/html"
  | xml, entry => Holds entry "application/xml" ∨ Holds entry "text/xml"
  | txt, entry => Holds entry "text/plain"
  | json, entry => Holds entry "application/json" ∨ Holds entry "text/javascript"

instance (format : Format) : DecidablePred format.IsNamedBy := fun entry =>
  match format with
  | html | xml | json => inferInstanceAs (Decidable (Holds entry _ ∨ Holds entry _))
  | txt => inferInstanceAs (Decidable (Holds entry _))

def IsAskedFor (format : Format) (entries : List String) : Prop :=
  ∃ entry ∈ entries, format.IsNamedBy entry

instance (format : Format) : DecidablePred format.IsAskedFor :=
  fun entries => inferInstanceAs (Decidable (∃ entry ∈ entries, _))

def StartsWild (entry : String) : Prop :=
  "*/*".toList <+: entry.toList

instance : DecidablePred StartsWild := fun _ => inferInstanceAs (Decidable (_ <+: _))

def EndsWild (entry : String) : Prop :=
  "*/*".toList <:+ entry.toList

instance : DecidablePred EndsWild := fun _ => inferInstanceAs (Decidable (_ <:+ _))

def FirstStartsWild (entries : List String) : Prop :=
  ∃ first ∈ entries.head?, StartsWild first

instance : DecidablePred FirstStartsWild :=
  fun entries => inferInstanceAs (Decidable (∃ first ∈ entries.head?, _))

def LastEndsWild (entries : List String) : Prop :=
  ∃ last ∈ entries.getLast?, EndsWild last

instance : DecidablePred LastEndsWild :=
  fun entries => inferInstanceAs (Decidable (∃ last ∈ entries.getLast?, _))

/-- What the entries of a value come to. -/
inductive Resolves (entries : List String) : Option Format → Prop
  | htmlFirst (asked : html.IsAskedFor entries ∨ FirstStartsWild entries) :
      Resolves entries (some html)
  | highest {format : Format} (noHtml : ¬ html.IsAskedFor entries)
      (tame : ¬ FirstStartsWild entries) (asked : format.IsAskedFor entries)
      (noneAbove : ∀ other : Format, format.rank < other.rank → ¬ other.IsAskedFor entries) :
      Resolves entries (some format)
  | anything (noneAsked : ∀ format : Format, ¬ format.IsAskedFor entries)
      (tame : ¬ FirstStartsWild entries) (wild : LastEndsWild entries) :
      Resolves entries (some html)
  | nothing (noneAsked : ∀ format : Format, ¬ format.IsAskedFor entries)
      (tame : ¬ FirstStartsWild entries) (tameEnd : ¬ LastEndsWild entries) :
      Resolves entries none

/-! ## Entries within the value -/

theorem comma_not_mem_mediaNames {format : Format} {name : String}
    (member : name ∈ format.mediaNames) : ',' ∉ name.toList := by
  have all : ∀ name ∈ format.mediaNames, ',' ∉ name.toList := by cases format <;> decide
  exact all name member

theorem toList_ne_nil_of_mem_mediaNames {format : Format} {name : String}
    (member : name ∈ format.mediaNames) : name.toList ≠ [] := by
  have all : ∀ name ∈ format.mediaNames, name.toList ≠ [] := by cases format <;> decide
  exact all name member

theorem comma_not_mem_wildcard : ',' ∉ wildcard := by decide

theorem wildcard_ne_nil : wildcard ≠ [] := by decide

theorem isNamedIn_iff {format : Format} {text : List Char} :
    format.isNamedIn text = true ↔ ∃ name ∈ format.mediaNames, name.toList <:+: text := by
  simp only [isNamedIn, List.any_eq_true, Text.occurs_iff_isInfix]

theorem isNamedBy_iff {format : Format} {entry : String} :
    format.IsNamedBy entry ↔ ∃ name ∈ format.mediaNames, name.toList <:+: entry.toList := by
  cases format <;> simp [IsNamedBy, Holds, mediaNames]

theorem toList_joined (entries : List String) :
    (",".intercalate entries).toList = [','].intercalate (entries.map String.toList) := by
  rw [String.toList_intercalate]
  rfl

theorem isNamedIn_joined_iff (format : Format) (entries : List String) :
    format.isNamedIn (",".intercalate entries).toList = true ↔ format.IsAskedFor entries := by
  have within : ∀ name ∈ format.mediaNames,
      (name.toList <:+: [','].intercalate (entries.map String.toList) ↔
        ∃ text ∈ entries.map String.toList, name.toList <:+: text) := fun _ member =>
    Text.infix_intercalate_iff (comma_not_mem_mediaNames member)
      (toList_ne_nil_of_mem_mediaNames member) _
  rw [isNamedIn_iff, toList_joined]
  constructor
  · rintro ⟨name, member, occurring⟩
    rcases (within name member).mp occurring with ⟨text, textMember, occurringThere⟩
    rcases List.mem_map.mp textMember with ⟨entry, entryMember, rfl⟩
    exact ⟨entry, entryMember, isNamedBy_iff.mpr ⟨name, member, occurringThere⟩⟩
  · rintro ⟨entry, entryMember, named⟩
    rcases isNamedBy_iff.mp named with ⟨name, member, occurring⟩
    have textMember := List.mem_map_of_mem (f := String.toList) entryMember
    exact ⟨name, member, (within name member).mpr ⟨entry.toList, textMember, occurring⟩⟩

theorem wildcard_isPrefixOf_joined_iff (entries : List String) :
    wildcard.isPrefixOf (",".intercalate entries).toList = true ↔ FirstStartsWild entries := by
  rw [List.isPrefixOf_iff_prefix, toList_joined,
    Text.prefix_intercalate_iff comma_not_mem_wildcard wildcard_ne_nil, List.head?_map,
    FirstStartsWild]
  cases entries.head? <;> simp [StartsWild, wildcard]

theorem wildcard_isSuffixOf_joined_iff (entries : List String) :
    wildcard.isSuffixOf (",".intercalate entries).toList = true ↔ LastEndsWild entries := by
  rw [List.isSuffixOf_iff_suffix, toList_joined,
    Text.suffix_intercalate_iff comma_not_mem_wildcard wildcard_ne_nil, List.getLast?_map,
    LastEndsWild]
  cases entries.getLast? <;> simp [EndsWild, wildcard]

/-! ## The choice -/

theorem above_xml {format : Format} (above : xml.rank < format.rank) : format = html := by
  cases format <;> simp [rank] at above ⊢

theorem above_txt {format : Format} (above : txt.rank < format.rank) :
    format = html ∨ format = xml := by
  cases format <;> simp [rank] at above ⊢

theorem above_json {format : Format} (above : json.rank < format.rank) :
    format = html ∨ format = xml ∨ format = txt := by
  cases format <;> simp [rank] at above ⊢

theorem resolves_negotiate? (entries : List String) :
    Resolves entries (negotiate? (some (",".intercalate entries))) := by
  have named := fun format : Format => isNamedIn_joined_iff format entries
  rw [negotiate?, ofAccept?]
  split
  · rename_i asked
    rw [Bool.or_eq_true, named, wildcard_isPrefixOf_joined_iff] at asked
    exact .htmlFirst asked
  rename_i unasked
  rw [Bool.or_eq_true, named, wildcard_isPrefixOf_joined_iff, not_or] at unasked
  rcases unasked with ⟨noHtml, tame⟩
  split
  · rename_i asked
    refine .highest noHtml tame ((named xml).mp asked) fun other above => ?_
    rw [above_xml above]
    exact noHtml
  rename_i noXml
  rw [named] at noXml
  split
  · rename_i asked
    refine .highest noHtml tame ((named txt).mp asked) fun other above => ?_
    rcases above_txt above with rfl | rfl
    · exact noHtml
    · exact noXml
  rename_i noTxt
  rw [named] at noTxt
  split
  · rename_i asked
    refine .highest noHtml tame ((named json).mp asked) fun other above => ?_
    rcases above_json above with rfl | rfl | rfl
    · exact noHtml
    · exact noXml
    · exact noTxt
  rename_i noJson
  rw [named] at noJson
  have noneAsked : ∀ format : Format, ¬ format.IsAskedFor entries
    | .html => noHtml
    | .xml => noXml
    | .txt => noTxt
    | .json => noJson
  split
  · rename_i wild
    exact .anything noneAsked tame ((wildcard_isSuffixOf_joined_iff entries).mp wild)
  · rename_i tameEnd
    rw [wildcard_isSuffixOf_joined_iff] at tameEnd
    exact .nothing noneAsked tame tameEnd

theorem negotiate?_of_resolves {entries : List String} {outcome : Option Format}
    (resolves : Resolves entries outcome) :
    negotiate? (some (",".intercalate entries)) = outcome := by
  have named := fun format : Format => isNamedIn_joined_iff format entries
  have unnamed : ∀ {format : Format}, ¬ format.IsAskedFor entries →
      ¬ format.isNamedIn (",".intercalate entries).toList = true :=
    fun noOne => mt (named _).mp noOne
  have first : (html.isNamedIn (",".intercalate entries).toList ||
      wildcard.isPrefixOf (",".intercalate entries).toList) = true ↔
      html.IsAskedFor entries ∨ FirstStartsWild entries := by
    rw [Bool.or_eq_true, named, wildcard_isPrefixOf_joined_iff]
  have last := wildcard_isSuffixOf_joined_iff entries
  rw [negotiate?, ofAccept?]
  cases resolves with
  | htmlFirst asked => rw [if_pos (first.mpr asked)]
  | @highest format noHtml tame asked noneAbove =>
      rw [if_neg (mt first.mp (not_or.mpr ⟨noHtml, tame⟩))]
      cases format with
      | html => exact absurd asked noHtml
      | xml => rw [if_pos ((named xml).mpr asked)]
      | txt =>
          rw [if_neg (unnamed (noneAbove xml (by decide))), if_pos ((named txt).mpr asked)]
      | json =>
          rw [if_neg (unnamed (noneAbove xml (by decide))),
            if_neg (unnamed (noneAbove txt (by decide))), if_pos ((named json).mpr asked)]
  | anything noneAsked tame wild =>
      rw [if_neg (mt first.mp (not_or.mpr ⟨noneAsked html, tame⟩)),
        if_neg (unnamed (noneAsked xml)), if_neg (unnamed (noneAsked txt)),
        if_neg (unnamed (noneAsked json)), if_pos (last.mpr wild)]
  | nothing noneAsked tame tameEnd =>
      rw [if_neg (mt first.mp (not_or.mpr ⟨noneAsked html, tame⟩)),
        if_neg (unnamed (noneAsked xml)), if_neg (unnamed (noneAsked txt)),
        if_neg (unnamed (noneAsked json)), if_neg (mt last.mp tameEnd)]

/-! ## Entries moved, repeated and added -/

/-- No entry starts or ends with the wildcard. -/
def AreTame (entries : List String) : Prop :=
  ∀ entry ∈ entries, ¬ StartsWild entry ∧ ¬ EndsWild entry

instance : DecidablePred AreTame := fun _ => inferInstanceAs (Decidable (∀ entry ∈ _, _))

theorem AreTame.not_firstStartsWild {entries : List String} (tame : AreTame entries) :
    ¬ FirstStartsWild entries := by
  rintro ⟨first, member, wild⟩
  exact (tame first (List.mem_of_mem_head? member)).1 wild

theorem AreTame.not_lastEndsWild {entries : List String} (tame : AreTame entries) :
    ¬ LastEndsWild entries := by
  rintro ⟨last, member, wild⟩
  exact (tame last (List.mem_of_mem_getLast? member)).2 wild

/-- Other entries come to the same when they ask for all of the same formats, and for no further
one that is better than the outcome. -/
theorem Resolves.of_asked {entries others : List String} {outcome : Option Format}
    (resolves : Resolves entries outcome) (tame : AreTame entries) (othersTame : AreTame others)
    (kept : ∀ format : Format, format.IsAskedFor entries → format.IsAskedFor others)
    (noneBetter : ∀ format : Format, format.IsAskedFor others → format.IsAskedFor entries ∨
      ∃ resolved, outcome = some resolved ∧ format.rank ≤ resolved.rank) :
    Resolves others outcome := by
  cases resolves with
  | htmlFirst asked =>
      rcases asked with asked | wild
      · exact .htmlFirst (.inl (kept html asked))
      · exact absurd wild tame.not_firstStartsWild
  | @highest format noHtml _ asked noneAbove =>
      have othersNoneAbove : ∀ other : Format, format.rank < other.rank →
          ¬ other.IsAskedFor others := by
        intro other above otherAsked
        rcases noneBetter other otherAsked with before | ⟨resolved, same, noBetter⟩
        · exact noneAbove other above before
        · cases same
          exact absurd above (Nat.not_lt.mpr noBetter)
      have below : format.rank < html.rank := by
        cases format with
        | html => exact absurd asked noHtml
        | _ => decide
      exact .highest (othersNoneAbove html below) othersTame.not_firstStartsWild
        (kept format asked) othersNoneAbove
  | anything noneAsked _ wild => exact absurd wild tame.not_lastEndsWild
  | nothing noneAsked _ _ =>
      have othersNoneAsked : ∀ format : Format, ¬ format.IsAskedFor others := by
        intro format asked
        rcases noneBetter format asked with before | ⟨resolved, same, _⟩
        · exact noneAsked format before
        · cases same
      exact .nothing othersNoneAsked othersTame.not_firstStartsWild othersTame.not_lastEndsWild

theorem negotiate?_of_same_entries {entries others : List String} (tame : AreTame entries)
    (same : ∀ entry, entry ∈ others ↔ entry ∈ entries) :
    negotiate? (some (",".intercalate others)) = negotiate? (some (",".intercalate entries)) := by
  have othersTame : AreTame others := fun entry member => tame entry ((same entry).mp member)
  refine negotiate?_of_resolves ((resolves_negotiate? entries).of_asked tame othersTame ?_ ?_)
  · rintro format ⟨entry, member, named⟩
    exact ⟨entry, (same entry).mpr member, named⟩
  · rintro format ⟨entry, member, named⟩
    exact .inl ⟨entry, (same entry).mp member, named⟩

theorem negotiate?_of_further_entry {front back : List String} {further : String}
    (tame : AreTame (front ++ back)) (tameStart : ¬ StartsWild further)
    (tameEnd : ¬ EndsWild further)
    (noneBetter : ∀ format : Format, format.IsNamedBy further →
      ∃ resolved, negotiate? (some (",".intercalate (front ++ back))) = some resolved ∧
        format.rank ≤ resolved.rank) :
    negotiate? (some (",".intercalate (front ++ further :: back))) =
      negotiate? (some (",".intercalate (front ++ back))) := by
  have members : ∀ entry, entry ∈ front ++ further :: back ↔
      entry = further ∨ entry ∈ front ++ back :=
    fun entry => List.perm_middle.mem_iff.trans List.mem_cons
  have allTame : AreTame (front ++ further :: back) := by
    intro entry member
    rcases (members entry).mp member with rfl | before
    · exact ⟨tameStart, tameEnd⟩
    · exact tame entry before
  refine negotiate?_of_resolves ((resolves_negotiate? (front ++ back)).of_asked tame allTame ?_ ?_)
  · rintro format ⟨entry, member, named⟩
    exact ⟨entry, (members entry).mpr (.inr member), named⟩
  · rintro format ⟨entry, member, named⟩
    rcases (members entry).mp member with rfl | before
    · exact .inr (noneBetter format named)
    · exact .inl ⟨entry, before, named⟩

/-- A value asks for HTML if one of its entries names it or the first one starts with the wildcard,
otherwise for the best format that an entry names, otherwise for HTML if the last entry ends with
the wildcard, and otherwise for none. Where no entry starts or ends with the wildcard, the same
entries in any order and number ask for the same, and so they do with a further entry at any place
that names no better format. -/
theorem negotiation_is_best_of_entries (entries : List String) :
    (∀ outcome, negotiate? (some (",".intercalate entries)) = outcome ↔
      Resolves entries outcome) ∧
    (AreTame entries →
      (∀ rearranged : List String, (∀ entry, entry ∈ rearranged ↔ entry ∈ entries) →
        negotiate? (some (",".intercalate rearranged)) =
          negotiate? (some (",".intercalate entries))) ∧
      ∀ (front back : List String) (further : String), entries = front ++ back →
        ¬ StartsWild further → ¬ EndsWild further →
        (∀ format : Format, format.IsNamedBy further →
          ∃ resolved, negotiate? (some (",".intercalate entries)) = some resolved ∧
            format.rank ≤ resolved.rank) →
        negotiate? (some (",".intercalate (front ++ further :: back))) =
          negotiate? (some (",".intercalate entries))) := by
  refine ⟨fun outcome => ⟨fun same => same ▸ resolves_negotiate? entries, negotiate?_of_resolves⟩,
    fun tame => ⟨fun rearranged same => negotiate?_of_same_entries tame same, ?_⟩⟩
  rintro front back further rfl tameStart tameEnd noneBetter
  exact negotiate?_of_further_entry tame tameStart tameEnd noneBetter

/-- A picture above all, text or XML. -/
def pictureReader : List String := ["image/png", "text/plain", "text/xml"]

theorem negotiation_is_best_of_entries_pictureReader :
    negotiate? (some (",".intercalate pictureReader)) = some xml ∧
    negotiate? (some (",".intercalate ["text/xml", "image/png", "text/xml", "text/plain"])) =
      some xml ∧
    negotiate? (some (",".intercalate
      ["image/png", "application/json", "text/plain", "text/xml"])) = some xml ∧
    negotiate? (some (",".intercalate ["text/plain", "application/xhtml+xml;q=0.9"])) =
      some html ∧
    negotiate? (some (",".intercalate ["*/*;q=0.8", "text/xml"])) = some html ∧
    negotiate? (some (",".intercalate ["application/json", "text/plain;q=0.5"])) = some txt ∧
    negotiate? (some (",".intercalate ["text/javascript", "*/*"])) = some json ∧
    negotiate? (some (",".intercalate ["image/png", "*/*"])) = some html ∧
    negotiate? (some (",".intercalate ["image/png", "*/*;q=0.8"])) = none := by
  have chosen : ∀ {entries outcome}, Resolves entries outcome →
      negotiate? (some (",".intercalate entries)) = outcome :=
    ((negotiation_is_best_of_entries _).1 _).mpr
  have reader : negotiate? (some (",".intercalate pictureReader)) = some xml :=
    chosen (.highest (by decide) (by decide) (by decide) fun
      | .html, _ => by decide)
  have noneBetter : ∀ format : Format, format.IsNamedBy "application/json" →
      format.rank ≤ xml.rank
    | .html => fun named => absurd named (by decide)
    | .xml | .txt | .json => fun _ => by decide
  rcases negotiation_is_best_of_entries pictureReader with ⟨_, unchanged⟩
  rcases unchanged (by decide) with ⟨rearranged, added⟩
  refine ⟨reader, ?_, ?_, ?_, ?_, ?_, ?_, ?_, ?_⟩
  · refine (rearranged _ fun entry => ?_).trans reader
    simp only [pictureReader, List.mem_cons, List.not_mem_nil, or_false]
    grind
  · exact (added ["image/png"] ["text/plain", "text/xml"] "application/json" rfl (by decide)
      (by decide) fun format named => ⟨xml, reader, noneBetter format named⟩).trans reader
  · exact chosen (.htmlFirst (.inl (by decide)))
  · exact chosen (.htmlFirst (.inr (by decide)))
  · exact chosen (.highest (by decide) (by decide) (by decide) fun
      | .html, _ | .xml, _ => by decide)
  · exact chosen (.highest (by decide) (by decide) (by decide) fun
      | .html, _ | .xml, _ | .txt, _ => by decide)
  · exact chosen (.anything (by intro format; cases format <;> decide) (by decide) (by decide))
  · exact chosen (.nothing (by intro format; cases format <;> decide) (by decide) (by decide))

end HttpExchange.Format
