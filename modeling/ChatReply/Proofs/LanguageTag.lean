import ChatReply.Proofs.Concatenation
import ChatReply.Proofs.DelimitedRun
import ChatReply.Proofs.FencedCode

/-!
# The language tag of a fence

The three backticks that open a fence may be followed by a language tag. A tag of word characters
makes no difference to what is parsed. With any other character in the tag the line opens no fence,
but is text of a paragraph.
-/

namespace ChatReply
namespace Reply

variable {framed : Bool} {first tag : Text}

/-- A reply, a blank line, and a line of three backticks and a tag in front of some more text. -/
def taggedReply (first tag rest : Text) : Text :=
  first ++ '\n' :: '\n' :: (fenceMarks ++ tag ++ '\n' :: rest)

section

variable (solid : ∀ c ∈ tag, isBlank c = false)
include solid

theorem isBlankText_tagged : isBlankText (fenceMarks ++ tag) = false := by
  rw [← Bool.not_eq_true, ← trim_eq_nil_iff, trim_fenceMarks_append solid]
  simp [fenceMarks]

theorem lines_taggedReply (complete : first.getLast? ≠ some '\r') (rest : Text) :
    lines (taggedReply first tag rest) =
      (lines first ++ [[]]) ++ (fenceMarks ++ tag) :: lines rest := by
  rw [taggedReply, lines_append_newline complete, lines_newline, lines_fenceMarks_append solid]
  simp

/-- A tag is one of word characters if and only if its line is a fence. -/
theorem isFence_tagged_iff :
    isFence (trim (fenceMarks ++ tag)) = true ↔ ∀ c ∈ tag, isWord c = true := by
  rw [isFence_trim_iff]
  constructor
  · rintro ⟨other, word, line_eq⟩
    rw [trim_fenceMarks_append solid] at line_eq
    rwa [List.append_cancel_left line_eq]
  · exact fun word => fencesCode_fenceMarks_append word

end

namespace Stream

/-- After a blank line outside fences nothing is open. -/
theorem feedAll_append_blank
    (unfenced : ∀ scanned, scan framed first = .ok scanned → scanned.fenced = false) :
    (Stream.mk [] .idle).feedAll framed (lines first ++ [[]]) =
      (Reply.parse framed first).map fun blocks => ⟨blocks, .idle⟩ := by
  rw [feedAll_eq_foldlM, List.foldlM_append, ← feedAll_eq_foldlM, parse_eq_bind_finish]
  cases read : feedAll framed ⟨[], .idle⟩ (lines first) with
  | error error => rfl
  | ok stream =>
      have divided : stream.feed framed [] =
          (stream.finish framed).map fun blocks => ⟨blocks, .idle⟩ :=
        feed_of_isBlankText (isFence_eq_false_of_scan unfenced read) rfl
      simp only [Except.bind, bind, List.foldlM_cons, List.foldlM_nil, divided]
      cases stream.finish framed <;> rfl

/-- Outside fences and items a line ends the open paragraph or is joined to it. -/
theorem TextStep.ends_or_joins {line : Text} {runs : List Run} {effect : Effect}
    (step : TextStep line runs effect) :
    (∃ added next, effect = .turn (.text runs) added next) ∨
      ∃ more, effect = .keep (.text (runs ++ more)) := by
  cases step with
  | text => exact .inr ⟨_, rfl⟩
  | _ => exact .inl ⟨_, _, rfl⟩

theorem exists_joined_eq (runs : List Run) (line : Text) :
    ∃ more, joined runs line = runs ++ more := by
  unfold joined
  split
  · exact ⟨[], (List.append_nil runs).symm⟩
  · exact ⟨_, rfl⟩

/-- An open paragraph is a block right behind those from before, whatever is joined to it. -/
theorem exists_paragraph_of_endingAfter {blocks : List Block} {runs : List Run}
    (runs_ne : runs ≠ []) {lines : List Text} {ending : Ending}
    (ends : (Stream.mk blocks (.text runs)).endingAfter framed lines = .ok ending) :
    ∃ more, blocks ++ [.paragraph (runs ++ more)] <+: ending.document := by
  induction lines generalizing runs with
  | nil =>
      rw [endingAfter_nil, Stream.ending] at ends
      obtain ⟨document, finished, rfl⟩ := map_eq_ok_iff.mp ends
      obtain rfl := Except.ok.inj finished
      exact ⟨[], by simp [runs_ne]⟩
  | cons line lines ih =>
      obtain ⟨effect, step, fed⟩ := exists_step line (.text runs)
      obtain ⟨joint, joined_eq⟩ := exists_joined_eq runs line
      rw [endingAfter_cons, fed] at ends
      obtain ⟨next, applied, ends⟩ := bind_eq_ok_iff.mp ends
      cases step with
      | text step =>
          rw [joined_eq] at step
          rcases step.ends_or_joins with ⟨added, pending, rfl⟩ | ⟨more, rfl⟩
          · have joined_ne := List.append_ne_nil_of_left_ne_nil runs_ne joint
            rw [Effect.apply, turn_text, Scan.paragraphBlocks, if_neg joined_ne] at applied
            obtain rfl := Except.ok.inj applied
            exact ⟨joint, (List.prefix_append _ added).trans (blocks_isPrefix_of_endingAfter ends)⟩
          · obtain rfl := Except.ok.inj applied
            rw [List.append_assoc] at ends
            obtain ⟨later, found⟩ := ih (List.append_ne_nil_of_left_ne_nil runs_ne _) ends
            exact ⟨joint ++ more ++ later, by simpa using found⟩

end Stream

section

variable (solid : ∀ c ∈ tag, isBlank c = false)
include solid

/-- Between two blocks the line opens a fence or a paragraph. -/
theorem feed_tagged (framed : Bool) (blocks : List Block) :
    (Stream.mk blocks .idle).feed framed (fenceMarks ++ tag) =
      .ok ⟨blocks, if isFence (trim (fenceMarks ++ tag)) then .fence []
        else .text (Run.ofLine (fenceMarks ++ tag))⟩ := by
  have front : (trim (fenceMarks ++ tag)).head? = some '\x60' := by
    rw [trim_fenceMarks_append solid]
    rfl
  obtain ⟨effect, step, fed⟩ := Stream.exists_step (fenceMarks ++ tag) .idle
  rw [fed]
  cases step with
  | idle step =>
      cases step with
      | fence marks => simp [marks, Stream.Effect.apply, Stream.turn_text, Scan.paragraphBlocks]
      | item found =>
          rw [itemKind?_eq_none_of_head? front (by decide) (by decide)] at found
          cases found
      | header found =>
          rw [head?_of_header? found] at front
          simp at front
      | separator found =>
          rw [isSeparator, beq_iff_eq] at found
          rw [found] at front
          simp at front
      | blank blank =>
          rw [isBlankText_tagged solid] at blank
          cases blank
      | text no_fence => simp [no_fence, Stream.Effect.apply]

variable (complete : first.getLast? ≠ some '\r')
variable (unfenced : ∀ scanned, scan framed first = .ok scanned → scanned.fenced = false)
include complete unfenced

/-- The line of the tag is read behind the blocks of the reply before it. -/
theorem parse_taggedReply (rest : Text) :
    parse framed (taggedReply first tag rest) = (parse framed first).bind fun blocks =>
      ((Stream.mk blocks (if isFence (trim (fenceMarks ++ tag)) then .fence []
        else .text (Run.ofLine (fenceMarks ++ tag)))).endingAfter framed (lines rest)).map
          Ending.document := by
  rw [parse_eq_map_endingAfter, lines_taggedReply solid complete, Stream.endingAfter_append,
    Stream.feedAll_append_blank unfenced]
  cases parse framed first with
  | error error => rfl
  | ok blocks => simp only [Except.map, Except.bind, Stream.endingAfter_cons, feed_tagged solid]

theorem parse_taggedReply_of_word (word : ∀ c ∈ tag, isWord c = true) (rest : Text) :
    parse framed (taggedReply first tag rest) = parse framed (taggedReply first [] rest) := by
  have marks := (isFence_tagged_iff solid).mpr word
  have bare_marks : isFence (trim (fenceMarks ++ [])) = true := by decide
  rw [parse_taggedReply solid complete unfenced,
    parse_taggedReply (List.forall_mem_nil _) complete unfenced, if_pos marks, if_pos bare_marks]

/-- The line of another tag starts a paragraph behind the reply before it. -/
theorem exists_paragraph_of_tagged (other : ∃ c ∈ tag, isWord c = false) {rest : Text}
    {document : Document} (parsed : parse framed (taggedReply first tag rest) = .ok document) :
    ∃ before more, parse framed first = .ok before ∧
      before ++ [.paragraph (Run.ofLine (fenceMarks ++ tag) ++ more)] <+: document := by
  obtain ⟨c, c_mem, c_other⟩ := other
  have no_marks : ¬isFence (trim (fenceMarks ++ tag)) = true := by
    rw [isFence_tagged_iff solid]
    intro word
    rw [word c c_mem] at c_other
    cases c_other
  have runs_ne : Run.ofLine (fenceMarks ++ tag) ≠ [] :=
    (Run.reading_ofLine _).ne_nil (by simp [fenceMarks])
  rw [parse_taggedReply solid complete unfenced, if_neg no_marks] at parsed
  obtain ⟨before, before_eq, parsed⟩ := bind_eq_ok_iff.mp parsed
  obtain ⟨ending, ends, rfl⟩ := map_eq_ok_iff.mp parsed
  obtain ⟨more, found⟩ := Stream.exists_paragraph_of_endingAfter runs_ne ends
  exact ⟨before, more, before_eq, found⟩

omit solid in
/-- A fence that holds one empty line at the end of a reply. -/
theorem parse_taggedReply_nil {before : Document} (parsed : parse framed first = .ok before) :
    parse framed (taggedReply first [] []) = .ok (before ++ [.code (.ofCode [] framed)]) := by
  have bare_marks : isFence (trim (fenceMarks ++ [])) = true := by decide
  have blank_line : isFence (trim []) = false := by decide
  rw [parse_taggedReply (List.forall_mem_nil _) complete unfenced, parsed, if_pos bare_marks,
    lines_nil]
  simp only [Except.bind, Stream.endingAfter_cons, Stream.feed_fence, blank_line]
  rfl

/-- A language tag may stand behind the backticks that open a fence without making a difference, if
it is one of word characters, and otherwise only if the reply before it is refused. With another
tag the line starts a paragraph, whatever follows. -/
theorem parse_taggedReply_eq_iff :
    ((∀ rest, parse framed (taggedReply first tag rest) =
        parse framed (taggedReply first [] rest)) ↔
      (∀ c ∈ tag, isWord c = true) ∨ ∃ error, parse framed first = .error error) ∧
    ((∃ c ∈ tag, isWord c = false) → ∀ rest document,
      parse framed (taggedReply first tag rest) = .ok document →
        ∃ before more, parse framed first = .ok before ∧
          before ++ [.paragraph (Run.ofLine (fenceMarks ++ tag) ++ more)] <+: document) := by
  refine ⟨⟨fun same => ?_, ?_⟩, fun other rest document =>
    exists_paragraph_of_tagged solid complete unfenced other⟩
  · cases parsed : parse framed first with
    | error error => exact .inr ⟨error, rfl⟩
    | ok before =>
        by_contra different
        have other : ∃ c ∈ tag, isWord c = false := by simpa using different
        have bare := parse_taggedReply_nil complete unfenced parsed
        obtain ⟨also_before, more, also_parsed, found⟩ :=
          exists_paragraph_of_tagged solid complete unfenced other ((same []).trans bare)
        obtain rfl := Except.ok.inj (parsed.symm.trans also_parsed)
        simp [List.prefix_append_right_inj] at found
  · rintro (word | ⟨error, refused⟩) rest
    · exact parse_taggedReply_of_word solid complete unfenced word rest
    · rw [parse_taggedReply solid complete unfenced,
        parse_taggedReply (List.forall_mem_nil _) complete unfenced, refused]
      rfl

end

theorem fenced_of_scan_letter {scanned : Scan} (scans : scan true ['a'] = .ok scanned) :
    scanned.fenced = false := by
  have unfenced : (scan true ['a']).map Scan.fenced = .ok false := by decide +kernel
  rw [scans] at unfenced
  exact Except.ok.inj unfenced

/-- The name of one language makes no difference, and that of another one does. -/
theorem parse_taggedReply_eq_iff_names :
    (∀ rest, parse true (taggedReply ['a'] ['c'] rest) =
      parse true (taggedReply ['a'] [] rest)) ∧
    ¬∀ rest, parse true (taggedReply ['a'] ['c', '#'] rest) =
      parse true (taggedReply ['a'] [] rest) := by
  have accepted : parse true ['a'] = .ok [.paragraph [⟨['a'], .plain⟩]] := by decide +kernel
  have letter_solid : isBlank 'c' = false := by decide
  have solid : ∀ c ∈ ['c'], isBlank c = false := List.forall_mem_singleton.mpr letter_solid
  have sharp_solid : ∀ c ∈ ['c', '#'], isBlank c = false :=
    List.forall_mem_cons.mpr ⟨letter_solid, List.forall_mem_singleton.mpr (by decide)⟩
  have word : ∀ c ∈ ['c'], isWord c = true := List.forall_mem_singleton.mpr (by decide +kernel)
  have sharp_other : isWord '#' = false := by decide +kernel
  refine ⟨(parse_taggedReply_eq_iff solid (by decide) fun _ => fenced_of_scan_letter).1.mpr
    (.inl word), fun same => ?_⟩
  rcases (parse_taggedReply_eq_iff sharp_solid (by decide)
    fun _ => fenced_of_scan_letter).1.mp same with sharp_word | ⟨error, refused⟩
  · rw [sharp_word '#' (by simp)] at sharp_other
    cases sharp_other
  · rw [accepted] at refused
    cases refused

/-- Behind a number sign in the tag, code is read as prose. -/
theorem parse_taggedReply_sharp :
    (['a'] : Text).getLast? ≠ some '\r' ∧
    (∀ scanned, scan true ['a'] = .ok scanned → scanned.fenced = false) ∧
    ['c', '#'] ≠ [] ∧ (∀ c ∈ ['c', '#'], isBlank c = false ∧ c ≠ '\x60') ∧
    parse true (taggedReply ['a'] ['c', '#'] "x\n```".toList) =
      .ok [.paragraph [⟨['a'], .plain⟩],
        .paragraph [⟨"```c#".toList, .plain⟩, ⟨[' '], .plain⟩, ⟨['x'], .plain⟩,
          ⟨[' '], .plain⟩]] ∧
    parse true (taggedReply ['a'] [] "x\n```".toList) =
      .ok [.paragraph [⟨['a'], .plain⟩], .code ⟨[⟨['x'], .plainText⟩], true⟩] := by
  refine ⟨by decide, fun _ => fenced_of_scan_letter, by decide, ?_, by decide +kernel,
    by decide +kernel⟩
  exact List.forall_mem_cons.mpr ⟨by decide, List.forall_mem_singleton.mpr (by decide)⟩

end Reply
end ChatReply
