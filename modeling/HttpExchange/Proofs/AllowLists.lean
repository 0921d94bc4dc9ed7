import HttpExchange.Proofs.LetterCase
import HttpExchange.Proofs.Request.Forwarding

/-! Allow-lists of proxies as they are written. A list is addresses with commas and white space around
them, and reading it gives those addresses in their order, whatever stands between them. So a proxy is
trusted exactly if its address stands in the setting with nothing attached to it; and the word for all
proxies counts as such only where it stands alone. -/

namespace HttpExchange.ProxyTrust

open Text

/-! ## Written lists -/

/-- A comma or white space. -/
def Separates (mark : Char) : Prop :=
  mark = ',' ∨ isWhiteSpace mark = true

/-- Commas and white space in any mix, or nothing. -/
def IsGap (text : List Char) : Prop :=
  ∀ mark ∈ text, Separates mark

/-- What an allow-list can hold: something with no comma and no white space in it. -/
structure IsToken (text : List Char) : Prop where
  filled : text ≠ []
  whole : ∀ character ∈ text, ¬Separates character

/-- An address with the gap before it. -/
structure Entry where
  gap : List Char
  address : List Char
  isGap : IsGap gap
  isToken : IsToken address

def Entry.text (entry : Entry) : List Char :=
  entry.gap ++ entry.address

/-- Addresses in order, with something between any two of them and perhaps something around them. -/
structure AllowList where
  entries : List Entry
  final : List Char
  apart : ∀ entry ∈ entries.tail, entry.gap ≠ []
  final_isGap : IsGap final

namespace AllowList

def characters (list : AllowList) : List Char :=
  list.entries.flatMap Entry.text ++ list.final

def text (list : AllowList) : String :=
  String.ofList list.characters

def addresses (list : AllowList) : List String :=
  list.entries.map fun entry => String.ofList entry.address

/-- The list is the word for all proxies, with nothing but white space around it. -/
def IsLoneAll (list : AllowList) : Prop :=
  ∃ entry, list.entries = [entry] ∧ IsBlank entry.gap ∧ IsBlank list.final ∧
    sameLetters entry.address "all".toList = true

end AllowList

/-- The text begins with a separator, if with anything, so it adds nothing to what comes before. -/
def StartsApart (text : List Char) : Prop :=
  ∀ mark ∈ text.head?, Separates mark

/-- The text ends with a separator, if with anything, so it adds nothing to what comes behind. -/
def EndsApart (text : List Char) : Prop :=
  ∀ mark ∈ text.getLast?, Separates mark

/-- The address is one of the longest runs without commas and white space in the text. -/
def StandsIn (address text : String) : Prop :=
  IsToken address.toList ∧ ∃ before after, text.toList = before ++ (address.toList ++ after) ∧
    EndsApart before ∧ StartsApart after

theorem IsGap.startsApart {gap : List Char} (isGap : IsGap gap) : StartsApart gap :=
  fun mark first => isGap mark (List.mem_of_mem_head? first)

theorem IsGap.endsApart {gap : List Char} (isGap : IsGap gap) : EndsApart gap :=
  fun mark last => isGap mark (List.mem_of_mem_getLast? last)

theorem IsGap.startsApart_append {gap : List Char} (isGap : IsGap gap) (filled : gap ≠ [])
    (text : List Char) : StartsApart (gap ++ text) := by
  rw [StartsApart, List.head?_append_of_ne_nil gap filled]
  exact isGap.startsApart

theorem IsGap.endsApart_append {gap : List Char} (isGap : IsGap gap) (filled : gap ≠ [])
    (text : List Char) : EndsApart (text ++ gap) := by
  rw [EndsApart, List.getLast?_append_of_ne_nil text filled]
  exact isGap.endsApart

/-- Behind an entry, the gap of the next one holds that apart, or there are only separators left. -/
theorem startsApart_written {entries : List Entry} (apart : ∀ entry ∈ entries, entry.gap ≠ [])
    {final : List Char} (isGap : IsGap final) :
    StartsApart (entries.flatMap Entry.text ++ final) := by
  cases entries with
  | nil => exact isGap.startsApart
  | cons entry entries =>
      rw [List.flatMap_cons, Entry.text, List.append_assoc, List.append_assoc]
      exact entry.isGap.startsApart_append (apart entry List.mem_cons_self) _

/-! ## Reading -/

theorem isSeparator_iff {mark : Char} : isSeparator mark = true ↔ Separates mark := by
  rw [isSeparator, Bool.or_eq_true, beq_iff_eq, Separates]

theorem isSeparator_eq_false_iff {mark : Char} : isSeparator mark = false ↔ ¬Separates mark := by
  rw [← isSeparator_iff, Bool.not_eq_true]

/-- The parts of a text between separators, as far as there is something in them. -/
def tokens (text : List Char) : List (List Char) :=
  (text.splitOnP isSeparator).filter fun address => !address.isEmpty

theorem addresses_eq_map_tokens (text : String) :
    addresses text = (tokens text.toList).map String.ofList :=
  rfl

@[simp] theorem tokens_nil : tokens [] = [] :=
  rfl

/-- Nothing runs over a separator, so a text can be read on either side of it. -/
theorem tokens_append_cons {mark : Char} (separates : Separates mark)
    (front back : List Char) : tokens (front ++ mark :: back) = tokens front ++ tokens back := by
  rw [tokens, List.splitOnP_append_cons front back (isSeparator_iff.mpr separates),
    List.filter_append, tokens, tokens]

theorem tokens_cons {mark : Char} (separates : Separates mark) (text : List Char) :
    tokens (mark :: text) = tokens text :=
  tokens_append_cons separates [] text

theorem tokens_append_of_startsApart {back : List Char} (apart : StartsApart back)
    (front : List Char) : tokens (front ++ back) = tokens front ++ tokens back := by
  cases back with
  | nil => rw [List.append_nil, tokens_nil, List.append_nil]
  | cons mark back =>
      have separates : Separates mark := apart mark rfl
      rw [tokens_append_cons separates, tokens_cons separates]

theorem tokens_append_of_endsApart {front : List Char} (apart : EndsApart front)
    (back : List Char) : tokens (front ++ back) = tokens front ++ tokens back := by
  rcases List.eq_nil_or_concat' front with rfl | ⟨start, mark, rfl⟩
  · rfl
  · have separates : Separates mark := apart mark List.getLast?_concat
    rw [List.append_assoc, List.singleton_append, tokens_append_cons separates,
      tokens_append_cons separates, tokens_nil, List.append_nil]

theorem tokens_of_isGap {gap : List Char} (isGap : IsGap gap) : tokens gap = [] := by
  induction gap with
  | nil => rfl
  | cons mark gap induction =>
      rw [tokens_cons (isGap mark List.mem_cons_self)]
      exact induction fun character member => isGap character (List.mem_cons_of_mem mark member)

theorem tokens_of_isToken {token : List Char} (isToken : IsToken token) :
    tokens token = [token] := by
  have whole : ∀ character ∈ token, isSeparator character = false :=
    fun character member => isSeparator_eq_false_iff.mpr (isToken.whole character member)
  rw [tokens, List.splitOnP_eq_singleton whole]
  exact List.filter_eq_self.mpr (by simp [isToken.filled])

/-- A list is read as its addresses, in their order. -/
theorem tokens_written {entries : List Entry} (apart : ∀ entry ∈ entries.tail, entry.gap ≠ [])
    {final : List Char} (isGap : IsGap final) :
    tokens (entries.flatMap Entry.text ++ final) = entries.map Entry.address := by
  induction entries with
  | nil => exact tokens_of_isGap isGap
  | cons entry entries induction =>
      have later : tokens (entries.flatMap Entry.text ++ final) = entries.map Entry.address :=
        induction fun other member => apart other (List.mem_of_mem_tail member)
      have behind : StartsApart (entries.flatMap Entry.text ++ final) :=
        startsApart_written apart isGap
      rw [List.flatMap_cons, Entry.text, List.append_assoc, List.append_assoc,
        tokens_append_of_endsApart entry.isGap.endsApart, tokens_of_isGap entry.isGap,
        tokens_append_of_startsApart behind, tokens_of_isToken entry.isToken, later]
      rfl

theorem addresses_text (list : AllowList) : ProxyTrust.addresses list.text = list.addresses := by
  rw [addresses_eq_map_tokens, AllowList.text, String.toList_ofList, AllowList.characters,
    tokens_written list.apart list.final_isGap, List.map_map]
  rfl

/-! ## Every text is a list -/

theorem IsGap.cons {mark : Char} (separates : Separates mark) {gap : List Char}
    (isGap : IsGap gap) : IsGap (mark :: gap) :=
  List.forall_mem_cons.mpr ⟨separates, isGap⟩

theorem IsToken.cons {first : Char} (shown : ¬Separates first) {text : List Char}
    (whole : ∀ character ∈ text, ¬Separates character) : IsToken (first :: text) :=
  ⟨List.cons_ne_nil first text, List.forall_mem_cons.mpr ⟨shown, whole⟩⟩

/-- A separator in front of a list widens the gap that the list begins with. -/
theorem exists_characters_eq_separator_cons {mark : Char} (separates : Separates mark)
    (list : AllowList) : ∃ longer : AllowList, longer.characters = mark :: list.characters := by
  rcases list with ⟨entries, final, apart, isGap⟩
  cases entries with
  | nil => exact ⟨⟨[], mark :: final, nofun, isGap.cons separates⟩, rfl⟩
  | cons entry entries =>
      let widened : Entry :=
        { entry with gap := mark :: entry.gap, isGap := entry.isGap.cons separates }
      exact ⟨⟨widened :: entries, final, apart, isGap⟩, rfl⟩

/-- Any other character in front of a list belongs to the address that the list begins with, or is
one of its own if there is a gap behind it. -/
theorem exists_characters_eq_shown_cons {first : Char} (shown : ¬Separates first)
    (list : AllowList) : ∃ longer : AllowList, longer.characters = first :: list.characters := by
  rcases list with ⟨entries, final, apart, ends⟩
  let single : Entry := ⟨[], [first], nofun, .cons shown nofun⟩
  cases entries with
  | nil => exact ⟨⟨[single], final, nofun, ends⟩, rfl⟩
  | cons entry entries =>
      rcases entry with ⟨gap, address, isGap, isToken⟩
      cases gap with
      | nil =>
          let extended : Entry := ⟨[], first :: address, isGap, .cons shown isToken.whole⟩
          exact ⟨⟨extended :: entries, final, apart, ends⟩, rfl⟩
      | cons mark gap =>
          let next : Entry := ⟨mark :: gap, address, isGap, isToken⟩
          have separated : ∀ entry ∈ next :: entries, entry.gap ≠ [] :=
            List.forall_mem_cons.mpr ⟨List.cons_ne_nil mark gap, apart⟩
          exact ⟨⟨single :: next :: entries, final, separated, ends⟩, rfl⟩

theorem exists_characters_eq (text : List Char) : ∃ list : AllowList, list.characters = text := by
  induction text with
  | nil => exact ⟨⟨[], [], nofun, nofun⟩, rfl⟩
  | cons first text induction =>
      rcases induction with ⟨list, rfl⟩
      by_cases separates : Separates first
      · exact exists_characters_eq_separator_cons separates list
      · exact exists_characters_eq_shown_cons separates list

/-! ## Addresses in a text -/

theorem AllowList.standsIn_of_mem (list : AllowList) {entry : Entry}
    (member : entry ∈ list.entries) : StandsIn (String.ofList entry.address) list.text := by
  rcases list with ⟨entries, final, apart, isGap⟩
  rcases List.append_of_mem member with ⟨front, back, rfl⟩
  have behind : ∀ other ∈ back, other.gap ≠ [] := by
    intro other inside
    apply apart other
    cases front <;> simp [inside]
  -- The first entry needs no gap before it, since there is nothing there to hold it apart from.
  have before : EndsApart (front.flatMap Entry.text ++ entry.gap) := by
    cases front with
    | nil => exact entry.isGap.endsApart
    | cons first front => exact entry.isGap.endsApart_append (apart entry (by simp)) _
  refine ⟨by simpa using entry.isToken, front.flatMap Entry.text ++ entry.gap,
    back.flatMap Entry.text ++ final, ?_, before, startsApart_written behind isGap⟩
  simp [text, characters, Entry.text]

theorem mem_addresses_iff {address text : String} :
    address ∈ addresses text ↔ StandsIn address text := by
  constructor
  · intro member
    rcases exists_characters_eq text.toList with ⟨list, written⟩
    have same : list.text = text := by rw [AllowList.text, written, String.ofList_toList]
    rw [← same, addresses_text] at member
    rcases List.mem_map.mp member with ⟨entry, inside, rfl⟩
    rw [← same]
    exact list.standsIn_of_mem inside
  · intro stands
    rcases stands with ⟨isToken, before, after, shape, ends, starts⟩
    rw [addresses_eq_map_tokens, shape, tokens_append_of_endsApart ends,
      tokens_append_of_startsApart starts, tokens_of_isToken isToken]
    simp

/-! ## The word for all proxies -/

theorem separates_toLower_iff {character : Char} :
    Separates character.toLower ↔ Separates character := by
  rw [Separates, Separates, toLower_eq_iff (by decide), isWhiteSpace_toLower]

theorem IsToken.of_lower {text : List Char} (isToken : IsToken (lower text)) : IsToken text where
  filled := by
    rintro rfl
    exact isToken.filled rfl
  whole := by
    intro letter member
    rw [← separates_toLower_iff]
    exact isToken.whole letter.toLower (List.mem_map_of_mem member)

theorem isToken_all : IsToken "all".toList where
  filled := by simp
  whole := by simp [Separates, isWhiteSpace]

theorem lower_all : lower "all".toList = "all".toList := by decide

theorem IsGap.of_isBlank {text : List Char} (blank : IsBlank text) : IsGap text :=
  fun character member => .inr (blank character member)

/-- The gap in front of an address ends where the address begins. -/
theorem takeWhile_gap_append {gap token : List Char} (isGap : IsGap gap) (isToken : IsToken token)
    (rest : List Char) : (gap ++ (token ++ rest)).takeWhile isSeparator = gap := by
  have separated : ∀ mark ∈ gap, isSeparator mark = true :=
    fun mark member => isSeparator_iff.mpr (isGap mark member)
  rw [List.takeWhile_append_of_pos separated]
  cases token with
  | nil => exact absurd rfl isToken.filled
  | cons first token =>
      rw [List.cons_append, List.takeWhile_cons_of_neg, List.append_nil]
      exact mt isSeparator_iff.mp (isToken.whole first List.mem_cons_self)

/-- A text that is one address and the gaps around it is a list of that address alone. -/
theorem AllowList.eq_of_text_eq_lone {list : AllowList} {before address after : List Char}
    (shape : list.text.toList = before ++ (address ++ after)) (isGap : IsGap before)
    (isToken : IsToken address) (after_isGap : IsGap after) :
    list.entries = [⟨before, address, isGap, isToken⟩] ∧ list.final = after := by
  let lone : AllowList := ⟨[⟨before, address, isGap, isToken⟩], after, nofun, after_isGap⟩
  have sameText : list.text = lone.text := by
    apply String.toList_inj.mp
    rw [shape]
    simp [lone, text, characters, Entry.text]
  have sameAddresses : list.addresses = lone.addresses := by
    rw [← addresses_text, sameText, addresses_text]
  rcases List.map_eq_singleton_iff.mp sameAddresses with
    ⟨⟨gap, other, otherIsGap, otherIsToken⟩, single, sameAddress⟩
  obtain rfl : other = address := String.ofList_injective sameAddress
  have written : list.text.toList = gap ++ (other ++ list.final) := by
    simp [text, characters, single, Entry.text]
  obtain rfl : gap = before := by
    rw [← takeWhile_gap_append otherIsGap isToken list.final, ← written, shape,
      takeWhile_gap_append isGap isToken]
  rw [shape, List.append_cancel_left_eq, List.append_cancel_left_eq] at written
  exact ⟨single, written.symm⟩

theorem AllowList.spells_all_iff (list : AllowList) : Spells "all" list.text ↔ list.IsLoneAll := by
  constructor
  · intro spelled
    rcases spelled with ⟨before, letters, after, shape, blankBefore, blankAfter, same⟩
    have isToken : IsToken letters := by
      apply IsToken.of_lower
      rw [same, lower_all]
      exact isToken_all
    rcases eq_of_text_eq_lone shape (.of_isBlank blankBefore) isToken (.of_isBlank blankAfter) with
      ⟨single, rfl⟩
    exact ⟨_, single, blankBefore, blankAfter, beq_iff_eq.mpr same⟩
  · intro lone
    rcases lone with ⟨entry, single, blankGap, blankFinal, same⟩
    refine ⟨entry.gap, entry.address, list.final, ?_, blankGap, blankFinal, beq_iff_eq.mp same⟩
    simp [text, characters, single, Entry.text]

/-! ## Trust -/

theorem sameLetters_trim_all_iff {text : String} :
    sameLetters (trim text.toList) "all".toList = true ↔ Spells "all" text := by
  have shown : ∀ letter ∈ "all".toList, isWhiteSpace letter = false := by simp [isWhiteSpace]
  rw [spells_iff shown, sameLetters, beq_iff_eq]

theorem ofSetting_of_spells {text : String} (spelled : Spells "all" text) :
    ofSetting (some text) = .all :=
  if_pos (sameLetters_trim_all_iff.mpr spelled)

theorem ofSetting_of_not_spells {text : String} (listed : ¬Spells "all" text) :
    ofSetting (some text) = .only (addresses text) :=
  if_neg (mt sameLetters_trim_all_iff.mp listed)

theorem accepts_only_addresses_iff {address text : String} :
    (only (addresses text)).accepts address = true ↔ StandsIn address text := by
  rw [accepts, decide_eq_true_iff, mem_addresses_iff]

/-- Allow-lists are read as they are written. A setting that does not spell the word for all proxies
trusts no one but addresses that stand in it with nothing attached to them, each of which is something
without commas and white space; and it refuses forwarding headers from every other address. Addresses
that are written with any gaps between and around them are read as these addresses, in their order.
And the word for all proxies counts as such only if it is all there is, white space aside: next to a
comma or to an address it is one more address. -/
theorem allow_lists_are_read_as_written (configuration : Configuration) :
    (∀ text, configuration.forwardedSupport = some text → ¬Spells "all" text →
      ∃ addresses, configuration.proxyTrust = .only addresses ∧
        (∀ address ∈ addresses, IsToken address.toList) ∧
        (∀ address, configuration.proxyTrust.accepts address = true ↔ StandsIn address text) ∧
        ∀ (request : Request) (client : String),
          request.headers.value? "x-forwarded-for" = some client →
          ((request.resolveForwarding configuration).2 =
              .error (.untrustedProxy request.remoteAddress) ↔
            ¬StandsIn request.remoteAddress text)) ∧
    ∀ list : AllowList, configuration.forwardedSupport = some list.text →
      (Spells "all" list.text ↔ list.IsLoneAll) ∧
      (list.IsLoneAll → configuration.proxyTrust = .all) ∧
      (¬list.IsLoneAll → configuration.proxyTrust = .only list.addresses) := by
  refine ⟨fun text set listed => ?_, fun list set => ⟨list.spells_all_iff, ?_, ?_⟩⟩
  · have trust : configuration.proxyTrust = .only (addresses text) := by
      rw [Configuration.proxyTrust, set, ofSetting_of_not_spells listed]
    refine ⟨addresses text, trust, ?_, ?_, ?_⟩
    · intro address member
      exact (mem_addresses_iff.mp member).1
    · intro address
      rw [trust, accepts_only_addresses_iff]
    · intro request client sent
      rw [(request.resolveForwarding_resolution configuration).refuses_iff, ← mem_addresses_iff]
      constructor
      · intro refused
        rcases refused with ⟨_, others, same, stranger⟩
        cases trust.symm.trans same
        exact stranger
      · intro stranger
        exact ⟨⟨Option.isSome_of_eq_some sent, by simp [trust]⟩, _, trust, stranger⟩
  · intro lone
    rw [Configuration.proxyTrust, set, ofSetting_of_spells (list.spells_all_iff.mpr lone)]
  · intro longer
    have listed : ¬Spells "all" list.text := fun spelled => longer (list.spells_all_iff.mp spelled)
    rw [Configuration.proxyTrust, set, ofSetting_of_not_spells listed, addresses_text]

/-- A word that means all proxies where it stands alone, and one proxy twice. -/
def repeating : AllowList where
  entries :=
    [⟨[','], "ALL".toList, by simp [IsGap, Separates],
        ⟨by simp, by simp [Separates, isWhiteSpace]⟩⟩,
      ⟨[',', ' ', ','], "10.0.0.12".toList, by simp [IsGap, Separates, isWhiteSpace],
        ⟨by simp, by simp [Separates, isWhiteSpace]⟩⟩,
      ⟨['\u2003'], "10.0.0.12".toList, by simp [IsGap, Separates, isWhiteSpace],
        ⟨by simp, by simp [Separates, isWhiteSpace]⟩⟩]
  final := ['\n']
  apart := by simp
  final_isGap := by simp [IsGap, Separates, isWhiteSpace]

/-- The word for all proxies with room around it. -/
def loneAll : AllowList where
  entries :=
    [⟨[' '], "All".toList, by simp [IsGap, Separates, isWhiteSpace],
        ⟨by simp, by simp [Separates, isWhiteSpace]⟩⟩]
  final := ['\n']
  apart := nofun
  final_isGap := by simp [IsGap, Separates, isWhiteSpace]

def trustsRepeating : Configuration where
  forwardedSupport := some ",ALL, ,10.0.0.12\u200310.0.0.12\n"

/-- A request passed on by a proxy whose address is a part of a listed one. -/
def passedOnByPart : Request :=
  .ofRaw
    { remoteAddress := "10.0.0.1"
      headers := Headers.set KeyedList.empty "X-Forwarded-For" "203.0.113.7" }
    trustsRepeating

/-- Alone the word stands for all proxies. In a longer list it makes no one trusted who is not listed,
and a part of a listed address is not listed. -/
theorem allow_lists_are_read_as_written_repeating :
    ¬Spells "all" ",ALL, ,10.0.0.12\u200310.0.0.12\n" ∧
    trustsRepeating.proxyTrust = .only ["ALL", "10.0.0.12", "10.0.0.12"] ∧
    StandsIn "10.0.0.12" ",ALL, ,10.0.0.12\u200310.0.0.12\n" ∧
    (passedOnByPart.resolveForwarding trustsRepeating).2 = .error (.untrustedProxy "10.0.0.1") ∧
    Configuration.proxyTrust { forwardedSupport := some " All\n" } = .all := by
  rcases allow_lists_are_read_as_written trustsRepeating with ⟨texts, lists⟩
  have written : repeating.text = ",ALL, ,10.0.0.12\u200310.0.0.12\n" := rfl
  have longer : ¬repeating.IsLoneAll := by
    intro lone
    rcases lone with ⟨entry, single, _⟩
    cases single
  rcases lists repeating rfl with ⟨spells, _, longerTrust⟩
  have listed := written ▸ mt spells.mp longer
  have trust : trustsRepeating.proxyTrust = .only ["ALL", "10.0.0.12", "10.0.0.12"] :=
    longerTrust longer
  rcases texts _ rfl listed with ⟨_, _, _, accepts, refuses⟩
  have stands := (accepts "10.0.0.12").mp (by rw [trust]; decide)
  have partly : ¬StandsIn "10.0.0.1" ",ALL, ,10.0.0.12\u200310.0.0.12\n" := by
    rw [← accepts, trust]
    decide
  have alone : loneAll.IsLoneAll :=
    ⟨_, rfl, by simp [IsBlank, isWhiteSpace], by simp [loneAll, IsBlank, isWhiteSpace], by decide⟩
  have all := ((allow_lists_are_read_as_written { forwardedSupport := some " All\n" }).2
    loneAll rfl).2.1 alone
  exact ⟨listed, trust, stands, (refuses passedOnByPart "203.0.113.7" rfl).mpr partly, all⟩

end HttpExchange.ProxyTrust
