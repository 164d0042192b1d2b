import ChatReply.File.ReplyFile
import ChatReply.Proofs.CheckedSettings
import ChatReply.Proofs.DirectFile
import ChatReply.Proofs.EncodedText

/-!
# Measured files

A reply file is measured twice, by its bytes before it is read and by its text afterwards. As
decoding is the inverse of encoding, the two measures agree, and the text that is parsed is the one
whose bytes the file has.
-/

namespace ChatReply
namespace ReplyFile

/-- A path leads to a file of given bytes. -/
structure LeadsTo (tree : Tree) (here : Path) (path : String) (bytes : List UInt8) : Prop where
  /-- The path holds no null character. -/
  no_null : WrittenPath.holdsNull path = false
  /-- In its tidy form it leads to the file. -/
  status : tree.status here (WrittenPath.tidy path) = .ok (.file bytes)

/-- The name of a file leads to it from its directory. -/
theorem leadsTo_name {tree : Tree} {here : Path} {name : String} {bytes : List UInt8}
    (directory : tree.entry? here = some .directory) (entry : WrittenPath.IsEntryName name)
    (file : tree.entry? (here ++ [name]) = some (.file bytes)) : LeadsTo tree here name bytes where
  no_null := entry.no_null
  status := by rw [entry.tidy_eq, Tree.status_file directory entry file]

section

variable {tree : Tree} {here : Path} {path : String} {bytes : List UInt8}
variable (leads : LeadsTo tree here path bytes)

include leads

theorem checkSize_of_leadsTo (limit : Int) :
    checkSize tree here path limit =
      if limit < bytes.length then .error (.tooLarge (WrittenPath.tidy path) limit)
      else .ok () := by
  simp [checkSize, leads.no_null, leads.status, FileEntry.size?]

theorem openBytes_of_leadsTo : openBytes tree here path = .ok bytes := by
  simp [openBytes, leads.no_null, leads.status]

theorem readWithin_of_not_encode (stray : ∀ text, Utf8.encode text ≠ bytes) (limit : Nat) :
    ∃ error, Utf8.decode bytes = .error error ∧
      readWithin tree here path limit = .error (.decoding (WrittenPath.tidy path) error) := by
  obtain ⟨error, refused⟩ := Utf8.exists_decode_eq_error_iff.mpr stray
  exact ⟨error, refused, by simp [readWithin, openBytes_of_leadsTo leads, refused]⟩

omit leads in
/-- A text is measured by its bytes. -/
theorem checkContent_eq (text : Text) (limit : Int) :
    Limit.checkContent text limit =
      if limit < (Utf8.encode text).length then .error ⟨(Utf8.encode text).length, limit⟩
      else .ok () := by
  rw [Limit.checkContent, Utf8.encodedSize_eq_length_encode]

theorem readWithin_of_encode {text : Text} (encoded : Utf8.encode text = bytes) (limit : Nat) :
    readWithin tree here path limit =
      if limit < bytes.length then
        .error (.tooLarge (WrittenPath.tidy path) ⟨bytes.length, limit⟩)
      else .ok text := by
  have decoded := Utf8.decode_eq_ok_iff.mpr encoded
  simp only [readWithin, openBytes_of_leadsTo leads, decoded, checkContent_eq, encoded,
    Int.ofNat_lt]
  by_cases large : limit < bytes.length
  · simp [large]
  · simp [large]

end

/-- A file is refused if its bytes are no text, and otherwise if they are more than the limit. In
all other cases the text whose bytes they are is parsed. The measures of the bytes and of the text
agree under every limit. -/
theorem parseChecked_of_leadsTo (tree : Tree) (here : Path) (path : String) (bytes : List UInt8)
    (settings : Settings) (options : Options) (leads : LeadsTo tree here path bytes)
    (valid : settings.check = .ok options) :
    settings.maxFileSize = .integer options.limit ∧
    settings.codeBackground = .boolean options.framed ∧
    ((∀ text, Utf8.encode text ≠ bytes) →
      ∃ error, Utf8.decode bytes = .error error ∧
        parseChecked tree here path settings =
          .error (.decoding (WrittenPath.tidy path) error)) ∧
    ∀ text, Utf8.encode text = bytes →
      parseChecked tree here path settings =
        (if options.limit < bytes.length then
          .error (.tooLarge (WrittenPath.tidy path) ⟨bytes.length, options.limit⟩)
        else (Reply.parse options.framed text).mapError .numeral) ∧
      ∀ limit : Int,
        checkSize tree here path limit = .ok () ↔ Limit.checkContent text limit = .ok () := by
  obtain rfl := Settings.check_eq_ok_iff.mp valid
  have parse_eq : parseChecked tree here path options.settings = parse tree here path options := by
    rw [parseChecked, valid]
  refine ⟨rfl, rfl, fun stray => ?_, fun text encoded => ⟨?_, fun limit => ?_⟩⟩
  · obtain ⟨error, refused, read⟩ := readWithin_of_not_encode leads stray options.limit
    exact ⟨error, refused, by rw [parse_eq, parse, read]⟩
  · rw [parse_eq, parse, readWithin_of_encode leads encoded]
    by_cases large : options.limit < bytes.length
    · rw [if_pos large, if_pos large]
    · rw [if_neg large, if_neg large]
  · rw [checkSize_of_leadsTo leads, checkContent_eq, encoded]
    by_cases large : limit < bytes.length
    · simp [if_pos large]
    · simp [if_neg large]

/-- A directory with one file. -/
def replyTree (bytes : List UInt8) : Tree :=
  ⟨[(["r.md"], .file bytes)]⟩

theorem leadsTo_replyTree (bytes : List UInt8) : LeadsTo (replyTree bytes) [] "r.md" bytes :=
  leadsTo_name rfl (by decide) rfl

/-- Six bytes for a byte order mark, a letter and a break of two characters are parsed under a limit
of six and refused under one of five, and the lead byte of a mark alone is refused as it is. -/
theorem parseChecked_of_leadsTo_mark :
    let bytes : List UInt8 := [0xEF, 0xBB, 0xBF, 0x61, 0x0D, 0x0A]
    let limited (limit : Int) : Settings := { maxFileSize := .integer limit }
    parseChecked (replyTree bytes) [] "r.md" (limited 6) =
        (Reply.parse true ['\uFEFF', 'a', '\r', '\n']).mapError .numeral ∧
      parseChecked (replyTree bytes) [] "r.md" (limited 5) = .error (.tooLarge "r.md" ⟨6, 5⟩) ∧
      ∃ error, parseChecked (replyTree [0xEF]) [] "r.md" (limited 5) =
        .error (.decoding "r.md" error) := by
  intro bytes limited
  have encoded : Utf8.encode ['\uFEFF', 'a', '\r', '\n'] = bytes := by decide
  have tidy_eq : WrittenPath.tidy "r.md" = "r.md" := by decide +kernel
  have checked (limit : Nat) (limit_pos : 0 < limit) : (limited limit).check =
      .ok ⟨.styled, true, ['•'], 1, limit, by decide, limit_pos⟩ :=
    Settings.check_eq_ok_iff.mpr rfl
  have stray : ∀ text, Utf8.encode text ≠ [0xEF] :=
    Utf8.exists_decode_eq_error_iff.mp ⟨⟨0, 0xEF, 0, .truncated⟩, by decide +kernel⟩
  obtain ⟨-, -, -, fits⟩ := parseChecked_of_leadsTo (replyTree bytes) [] "r.md" bytes (limited 6)
    _ (leadsTo_replyTree bytes) (checked 6 (by decide))
  obtain ⟨-, -, -, exceeds⟩ := parseChecked_of_leadsTo (replyTree bytes) [] "r.md" bytes (limited 5)
    _ (leadsTo_replyTree bytes) (checked 5 (by decide))
  obtain ⟨-, -, refused, -⟩ := parseChecked_of_leadsTo (replyTree [0xEF]) [] "r.md" [0xEF]
    (limited 5) _ (leadsTo_replyTree [0xEF]) (checked 5 (by decide))
  refine ⟨(fits _ encoded).1, ?_, ?_⟩
  · rw [(exceeds _ encoded).1, tidy_eq]
    rfl
  · obtain ⟨error, -, failed⟩ := refused stray
    exact ⟨error, by rw [failed, tidy_eq]⟩

end ReplyFile
end ChatReply
