import ChatReply.Proofs.PhysicalLine
import ChatReply.Reply.Parse
import ChatReply.Text.Utf8

/-!
# Unified line breaks

A line feed for every line break leaves the lines of a text as they are, and so all that is read off
them. Only the size of the text changes, and it does so only where a break has two characters.
-/

namespace ChatReply

theorem unifyBreaks_of_not_mem {text : Text} (no_return : '\r' ∉ text) :
    unifyBreaks text = text := by
  induction text with
  | nil => rfl
  | cons c text ih =>
      obtain ⟨return_ne, later⟩ := List.ne_and_not_mem_of_not_mem_cons no_return
      rw [unifyBreaks, ih later]
      · exact fun rest is_return _ => return_ne is_return.symm
      · exact fun is_return => return_ne is_return.symm

theorem lines_unifyBreaks (text : Text) : lines (unifyBreaks text) = lines text := by
  fun_induction brokenLines text with
  | case1 => rfl
  | case2 text ih => rw [unifyBreaks, lines_newline, lines_return_newline, ih]
  | case3 text lone ih =>
      rw [unifyBreaks, lines_newline, lines_return (head?_ne_newline lone), ih]
      exact lone
  | case4 text ih =>
      rw [unifyBreaks, lines_newline, lines_newline, ih]
      · simp
      · simp
  | case5 c text pair_ne return_ne newline_ne ih =>
      have inside := isBreak_eq_false newline_ne return_ne
      rw [unifyBreaks, lines_cons inside, lines_cons inside, ih]
      · exact pair_ne
      · exact return_ne

theorem isBlankText_unifyBreaks (text : Text) :
    isBlankText (unifyBreaks text) = isBlankText text := by
  have newline : isBlank '\n' = true := by decide
  have carriage : isBlank '\r' = true := by decide
  fun_induction unifyBreaks text with
  | case1 => rfl
  | case2 text ih => simpa [isBlankText, newline, carriage] using ih
  | case3 text lone ih => simpa [isBlankText, newline, carriage] using ih
  | case4 c text pair_ne return_ne ih =>
      simp only [isBlankText, List.all_cons] at ih ⊢
      rw [ih]

theorem encodedSize_unifyBreaks_le (text : Text) :
    Utf8.encodedSize (unifyBreaks text) ≤ Utf8.encodedSize text := by
  have carriage : '\r'.utf8Size = '\n'.utf8Size := by decide
  fun_induction unifyBreaks text with
  | case1 => exact Nat.le_refl _
  | case2 text ih =>
      simp only [Utf8.encodedSize]
      omega
  | case3 text lone ih =>
      simp only [Utf8.encodedSize]
      omega
  | case4 c text pair_ne return_ne ih =>
      simp only [Utf8.encodedSize]
      omega

theorem encodedSize_unifyBreaks {text : Text} (single : ¬['\r', '\n'] <:+: text) :
    Utf8.encodedSize (unifyBreaks text) = Utf8.encodedSize text := by
  have carriage : '\r'.utf8Size = '\n'.utf8Size := by decide
  fun_induction unifyBreaks text with
  | case1 => rfl
  | case2 text ih => exact (single ⟨[], text, rfl⟩).elim
  | case3 text lone ih =>
      rw [List.infix_cons_iff, not_or] at single
      rw [Utf8.encodedSize, Utf8.encodedSize, ih single.2, carriage]
  | case4 c text pair_ne return_ne ih =>
      rw [List.infix_cons_iff, not_or] at single
      rw [Utf8.encodedSize, Utf8.encodedSize, ih single.2]

namespace Reply

theorem scan_unifyBreaks (framed : Bool) (text : Text) :
    scan framed (unifyBreaks text) = scan framed text := by
  rw [scan, scan, isBlankText_unifyBreaks, lines_unifyBreaks]

theorem parse_unifyBreaks (framed : Bool) (text : Text) :
    parse framed (unifyBreaks text) = parse framed text := by
  rw [parse, parse, scan_unifyBreaks]

end Reply
end ChatReply
