import Mathlib.Data.List.Forall2
import FluentAssert.Node.Response

/-! Letter case in messages. Content types read the same in lowercase letters, and what is looked up
in headers does not depend on the case of their names. -/
namespace FluentAssert

open FluentAssert.Text

namespace Text

variable {p : Char → Bool}

theorem isUpper_iff {c : Char} : c.isUpper = true ↔ 65 ≤ c.toNat ∧ c.toNat ≤ 90 := by
  show decide (65 ≤ c.val ∧ c.val ≤ 90) = true ↔ _
  rw [decide_eq_true_iff, UInt32.le_iff_toNat_le, UInt32.le_iff_toNat_le]
  rfl

theorem isLower_iff {c : Char} : c.isLower = true ↔ 97 ≤ c.toNat ∧ c.toNat ≤ 122 := by
  show (decide (97 ≤ c.val) && decide (c.val ≤ 122)) = true ↔ _
  rw [Bool.and_eq_true_iff, decide_eq_true_iff, decide_eq_true_iff, UInt32.le_iff_toNat_le,
    UInt32.le_iff_toNat_le]
  rfl

theorem isAlpha_iff {c : Char} : c.isAlpha = true ↔ c.isUpper = true ∨ c.isLower = true :=
  Bool.or_eq_true_iff

theorem toLower_of_not_isUpper {c : Char} (other : ¬ c.isUpper = true) : c.toLower = c :=
  dif_neg fun range => other (decide_eq_true range)

/-- A capital becomes the small letter that is 32 codes behind it. -/
theorem isLower_toLower {c : Char} (upper : c.isUpper = true) : c.toLower.isLower = true := by
  have range := isUpper_iff.mp upper
  have moved : c.toLower.val = c.val + 32 := congrArg Char.val (dif_pos (of_decide_eq_true upper))
  have codes : c.toLower.toNat = (c.toNat + 32) % 2 ^ 32 := congrArg UInt32.toNat moved
  rw [isLower_iff, codes]
  omega

theorem toLower_toLower (c : Char) : c.toLower.toLower = c.toLower := by
  by_cases upper : c.isUpper = true
  · apply toLower_of_not_isUpper
    have range := isLower_iff.mp (isLower_toLower upper)
    rw [isUpper_iff]
    omega
  · rw [toLower_of_not_isUpper upper, toLower_of_not_isUpper upper]

/-- Upper and lower case of a letter are alike to it. -/
def Caseless (p : Char → Bool) : Prop := ∀ c : Char, p c.toLower = p c

theorem Caseless.of_letters (letters : ∀ c : Char, c.isAlpha = true → p c = false) :
    Caseless p := by
  intro c
  by_cases upper : c.isUpper = true
  · have letter : c.isAlpha = true := isAlpha_iff.mpr (.inl upper)
    have letter' : c.toLower.isAlpha = true := isAlpha_iff.mpr (.inr (isLower_toLower upper))
    rw [letters c letter, letters c.toLower letter']
  · rw [toLower_of_not_isUpper upper]

theorem caseless_isBlank : Caseless isBlank := by
  apply Caseless.of_letters
  intro c letter
  rw [isAlpha_iff, isUpper_iff, isLower_iff] at letter
  simp [isBlank, blanks, Ranges.contains]
  omega

theorem caseless_beq {mark : Char} (other : mark.isAlpha = false) : Caseless (· == mark) := by
  apply Caseless.of_letters
  intro c letter
  rw [beq_eq_false_iff_ne]
  rintro rfl
  exact Bool.false_ne_true (other.symm.trans letter)

theorem caseless_bne {mark : Char} (other : mark.isAlpha = false) : Caseless (· != mark) :=
  fun c => congrArg Bool.not (caseless_beq other c)

namespace Caseless

variable (caseless : Caseless p) (text : List Char)
include caseless

theorem comp_toLower : p ∘ Char.toLower = p := funext caseless

theorem dropWhile_lower :
    (text.map Char.toLower).dropWhile p = (text.dropWhile p).map Char.toLower := by
  rw [List.dropWhile_map, caseless.comp_toLower]

theorem takeWhile_lower :
    (text.map Char.toLower).takeWhile p = (text.takeWhile p).map Char.toLower := by
  rw [List.takeWhile_map, caseless.comp_toLower]

theorem trimBy_lower : trimBy p (text.map Char.toLower) = (trimBy p text).map Char.toLower := by
  simp only [trimBy, caseless.dropWhile_lower, ← List.map_reverse]

end Caseless

theorem splitOn_lower {mark : Char} (other : mark.isAlpha = false) (text : List Char) :
    (text.map Char.toLower).splitOn mark = (text.splitOn mark).map (List.map Char.toLower) := by
  induction text with
  | nil => rfl
  | cons c rest ih =>
    have same : (c.toLower == mark) = (c == mark) := caseless_beq other c
    rw [List.map_cons, List.splitOn_cons_eq_if_modifyHead, List.splitOn_cons_eq_if_modifyHead,
      same, ih]
    split
    · rfl
    · cases rest.splitOn mark <;> rfl

theorem lowercaseAscii_eq_iff {text text' : String} :
    lowercaseAscii text = lowercaseAscii text' ↔
      text.toList.map Char.toLower = text'.toList.map Char.toLower := by
  simp only [lowercaseAscii, ← String.toList_inj, String.toList_map]

theorem lowercaseAscii_ofList (text : List Char) :
    lowercaseAscii (String.ofList text) = String.ofList (text.map Char.toLower) := by
  simp only [lowercaseAscii, ← String.toList_inj, String.toList_map, String.toList_ofList]

theorem lowercaseAscii_twice (text : String) :
    lowercaseAscii (lowercaseAscii text) = lowercaseAscii text := by
  rw [lowercaseAscii_eq_iff, lowercaseAscii, String.toList_map, List.map_map]
  exact List.map_congr_left fun c _ => toLower_toLower c

end Text

namespace Http

namespace ContentType

def lowercase (type : ContentType) : ContentType :=
  ⟨lowercaseAscii type.media, type.charset.map lowercaseAscii⟩

theorem splitParameter_lower (parameter : List Char) :
    splitParameter (parameter.map Char.toLower) =
      (splitParameter parameter).map (Prod.map (List.map Char.toLower) (List.map Char.toLower)) := by
  have caseless : Caseless (· != '=') := caseless_bne rfl
  unfold splitParameter
  rw [caseless.dropWhile_lower, caseless.takeWhile_lower]
  cases parameter.dropWhile (· != '=') <;> rfl

theorem charsetOf_lower (parameter : List Char) :
    charsetOf (parameter.map Char.toLower) = (charsetOf parameter).map lowercaseAscii := by
  unfold charsetOf
  rw [splitParameter_lower]
  cases splitParameter parameter with
  | none => rfl
  | some pair =>
    obtain ⟨name, value⟩ := pair
    have quotes : Caseless (· == '"') := caseless_beq rfl
    have named : equalIgnoringAsciiCase
          (String.ofList (trimBy isBlank (name.map Char.toLower))) "charset" =
        equalIgnoringAsciiCase (String.ofList (trimBy isBlank name)) "charset" := by
      unfold equalIgnoringAsciiCase
      rw [caseless_isBlank.trimBy_lower, ← lowercaseAscii_ofList, lowercaseAscii_twice]
    simp only [Option.map_some, Prod.map, named]
    split
    · rw [caseless_isBlank.trimBy_lower, quotes.trimBy_lower, ← lowercaseAscii_ofList]
      rfl
    · rfl

theorem parse_lowercase (header : String) :
    parse (lowercaseAscii header) = (parse header).lowercase := by
  have letters : (lowercaseAscii header).toList = header.toList.map Char.toLower :=
    String.toList_map
  unfold parse
  rw [letters, splitOn_lower rfl]
  obtain ⟨media, parameters, parts⟩ :=
    List.exists_cons_of_ne_nil (List.splitOn_ne_nil ';' header.toList)
  have charsets : charsetOf ∘ List.map Char.toLower = Option.map lowercaseAscii ∘ charsetOf :=
    funext charsetOf_lower
  simp only [parts, List.map_cons, lowercase, lowercaseAscii_ofList, caseless_isBlank.trimBy_lower,
    List.findSome?_map, charsets, List.map_findSome?]

end ContentType

/-- The same names but for the case of letters, in the same order, and values that look the same. -/
def Headers.Alike {β : Type} (view : String → β) : Headers → Headers → Prop :=
  List.Forall₂ fun header header' =>
    lowercaseAscii header.1 = lowercaseAscii header'.1 ∧ view header.2 = view header'.2

namespace Headers.Alike

variable {β : Type} {view : String → β} {headers headers' : Headers} {name name' : String}

theorem first? (alike : Headers.Alike view headers headers')
    (names : lowercaseAscii name = lowercaseAscii name') :
    (headers.first? name).map view = (headers'.first? name').map view := by
  unfold Headers.first?
  induction alike with
  | nil => rfl
  | cons header _ ih =>
    obtain ⟨same, value⟩ := header
    simp only [List.find?_cons, equalIgnoringAsciiCase, same, names] at ih ⊢
    split
    · exact congrArg some value
    · exact ih

end Headers.Alike

/-- Responses that differ in the case of letters in header names, and in header values at most as
far as the view does not show. -/
structure Response.Alike {β : Type} (view : String → β) (reply reply' : Response) : Prop where
  status : reply.status = reply'.status
  body : reply.body = reply'.body
  headers : reply.headers.Alike view reply'.headers

namespace Response

variable {reply reply' : Response} {name name' media media' : String}
  {charset charset' : Option String}

theorem header?_congr (reply : Response) (names : lowercaseAscii name = lowercaseAscii name') :
    reply.header? name = reply.header? name' := by
  simp only [header?, Headers.first?, equalIgnoringAsciiCase, names]

/-- The content type in lowercase letters. -/
def contentType? (reply : Response) : Option ContentType :=
  (reply.header? contentTypeName).map fun header => ContentType.parse (lowercaseAscii header)

theorem contentTypeFault?_eq_none :
    reply.contentTypeFault? media charset = none ↔ ∃ found, reply.contentType? = some found ∧
      found.media = lowercaseAscii media ∧
      ∀ wanted, charset.map lowercaseAscii = some wanted → found.charset = some wanted := by
  unfold contentTypeFault? contentType?
  cases reply.header? contentTypeName with
  | none => simp
  | some header =>
    simp only [Option.map_some, Option.some.injEq, exists_eq_left', ContentType.parse_lowercase,
      ContentType.lowercase, equalIgnoringAsciiCase]
    by_cases same : lowercaseAscii (ContentType.parse header).media = lowercaseAscii media
    · cases charset with
      | none => simp [same]
      | some wanted => cases (ContentType.parse header).charset <;> simp [same]
    · simp [same]

theorem textContentFault?_eq_none :
    reply.textContentFault? media = none ↔ ∃ found, reply.contentType? = some found ∧
      found.media = lowercaseAscii media ∧
      ∀ actual, found.charset = some actual → actual = lowercaseAscii "utf-8" := by
  unfold textContentFault?
  cases fault : reply.contentTypeFault? media none with
  | some error =>
    have none : ¬ reply.contentTypeFault? media none = .none := by simp [fault]
    rw [contentTypeFault?_eq_none] at none
    simp only [reduceCtorEq, false_iff]
    rintro ⟨found, same, media, -⟩
    exact none ⟨found, same, media, by simp⟩
  | none =>
    obtain ⟨found, same, media, -⟩ := contentTypeFault?_eq_none.mp fault
    simp only [same, media, Option.some.injEq, exists_eq_left', true_and]
    obtain ⟨header, there, rfl⟩ := Option.map_eq_some_iff.mp same
    simp only [there, Option.getD_some, ContentType.parse_lowercase, ContentType.lowercase]
    cases (ContentType.parse header).charset <;> simp [equalIgnoringAsciiCase]

theorem plainText_eq_some {text : String} :
    reply.plainText.toOption = some text ↔
      reply.textContentFault? "text/plain" = none ∧ decodeUtf8 reply.body = .ok text := by
  unfold plainText
  cases reply.textContentFault? "text/plain" with
  | some fault => simp [Except.toOption]
  | none => cases decodeUtf8 reply.body <;> simp [Except.toOption]

theorem jsonValue_eq_some {value : Canonical} :
    reply.jsonValue.toOption = some value ↔ reply.textContentFault? "application/json" = none ∧
      ∃ document, Json.read reply.body = .ok document ∧ .ofJson document = value := by
  unfold jsonValue
  cases reply.textContentFault? "application/json" with
  | some fault => simp [Except.toOption]
  | none => cases Json.read reply.body <;> simp [Except.toOption]

namespace Alike

theorem header? {β : Type} {view : String → β} (alike : Alike view reply reply')
    (names : lowercaseAscii name = lowercaseAscii name') :
    (reply.header? name).map view = (reply'.header? name').map view :=
  alike.headers.first? names

theorem header_eq (alike : Alike id reply reply')
    (names : lowercaseAscii name = lowercaseAscii name') :
    reply.header? name = reply'.header? name' := by
  simpa using alike.header? names

theorem headerFields (alike : Alike id reply reply') : reply.headerFields = reply'.headerFields := by
  have headers := alike.headers
  unfold Response.headerFields
  generalize reply.headers = these, reply'.headers = those at headers ⊢
  generalize ([] : Fields Canonical) = fields
  induction headers generalizing fields with
  | nil => rfl
  | cons header _ ih =>
    obtain ⟨names, values⟩ := header
    simp only [id_eq] at values
    simp only [List.foldl_cons, names, values]
    exact ih _

theorem contentTypeFault? (alike : Alike id reply reply') (media : String)
    (charset : Option String) :
    reply.contentTypeFault? media charset = reply'.contentTypeFault? media charset := by
  unfold Response.contentTypeFault?
  rw [alike.header_eq rfl]

theorem textContentFault? (alike : Alike id reply reply') (media : String) :
    reply.textContentFault? media = reply'.textContentFault? media := by
  unfold Response.textContentFault?
  rw [alike.contentTypeFault?, alike.header_eq rfl]

theorem plainText (alike : Alike id reply reply') : reply.plainText = reply'.plainText := by
  unfold Response.plainText
  rw [alike.textContentFault?, alike.body]

theorem jsonValue (alike : Alike id reply reply') : reply.jsonValue = reply'.jsonValue := by
  unfold Response.jsonValue
  rw [alike.textContentFault?, alike.body]

theorem contentFaults (alike : Alike id reply reply') :
    reply.contentFaults = reply'.contentFaults := by
  unfold Response.contentFaults
  rw [alike.header_eq rfl, alike.body]

/-! Values may differ in the case of letters too as far as content types go. -/

theorem contentType? (alike : Alike lowercaseAscii reply reply') :
    reply.contentType? = reply'.contentType? := by
  have whole (reply : Response) : reply.contentType? =
      ((reply.header? contentTypeName).map lowercaseAscii).map ContentType.parse := by
    rw [Option.map_map]
    rfl
  rw [whole, whole, alike.header? rfl]

theorem contentTypeFault?_eq_none (alike : Alike lowercaseAscii reply reply')
    (medias : lowercaseAscii media = lowercaseAscii media')
    (charsets : charset.map lowercaseAscii = charset'.map lowercaseAscii) :
    reply.contentTypeFault? media charset = none ↔
      reply'.contentTypeFault? media' charset' = none := by
  rw [Response.contentTypeFault?_eq_none, Response.contentTypeFault?_eq_none, alike.contentType?,
    medias, charsets]

theorem textContentFault?_eq_none (alike : Alike lowercaseAscii reply reply') (media : String) :
    reply.textContentFault? media = none ↔ reply'.textContentFault? media = none := by
  rw [Response.textContentFault?_eq_none, Response.textContentFault?_eq_none, alike.contentType?]

theorem plainText_toOption (alike : Alike lowercaseAscii reply reply') :
    reply.plainText.toOption = reply'.plainText.toOption := by
  ext text
  rw [plainText_eq_some, plainText_eq_some, alike.textContentFault?_eq_none, alike.body]

theorem jsonValue_toOption (alike : Alike lowercaseAscii reply reply') :
    reply.jsonValue.toOption = reply'.jsonValue.toOption := by
  ext value
  rw [jsonValue_eq_some, jsonValue_eq_some, alike.textContentFault?_eq_none, alike.body]

end Alike
end Response
end Http
end FluentAssert
