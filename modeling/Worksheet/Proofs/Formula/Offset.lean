import Worksheet.Proofs.Formula.Parsing
import Worksheet.Proofs.Formula.Progress

/- Worksheet Offsets — a formula read from another place in a text.

   A stream that starts at another position is the same stream with all positions moved
   (`scan_shift`). No reader looks at a position, so it ends on both in the same way, and
   an error points as much further on as the stream was moved (`whole_shift`). The white
   space in front of a text is counted, whether it is cut off or scanned, so the equals
   sign of a formula only moves what comes after it. -/
namespace Worksheet

namespace Tokens

/-- The stream with all positions moved. -/
def shift (k : Nat) : Tokens → Tokens
  | finish position => finish (position + k)
  | fault cause position => fault cause (position + k)
  | next t position rest => next t (position + k) (rest.shift k)

theorem scan_shift (k position skip : Nat) (cs : List Char) :
    scan (position + k) skip cs = (scan position skip cs).shift k := by
  fun_induction scan position skip cs with
  | case1 => rfl
  | case2 position skip c cs ih => rw [scan, ← ih, Nat.add_right_comm]
  | case3 position c cs hc ih => rw [scan, if_pos hc, ← ih, Nat.add_right_comm]
  | case4 position c cs hc cause before hscan =>
    rw [scan, if_neg hc, hscan]
    dsimp only
    rw [shift, Nat.add_right_comm]
  | case5 position c cs hc t length hscan ih =>
    rw [scan, if_neg hc, hscan, shift, ← ih, Nat.add_right_comm]

theorem Begins.shift {a b : Tokens} {ts : List Token} (h : Begins a ts b) (k : Nat) :
    Begins (a.shift k) ts (b.shift k) := by
  induction h with
  | nil => exact .nil
  | cons _ ih => exact .cons ih

theorem similar_shift (tokens : Tokens) (k : Nat) : tokens.Similar (tokens.shift k) := by
  cases tokens with
  | finish p => exact .finish ..
  | fault cause p => exact .fault ..
  | next t p rest => exact .next (.refl t) ..

end Tokens

namespace Formula

/-- The same token is refused for the same reason wherever it stands. -/
theorem unexpected_shift (place : Place) (tokens : Tokens) :
    ∃ problem position, unexpected place tokens = .malformed problem position ∧
      ∀ k, unexpected place (tokens.shift k) = .malformed problem (position + k) := by
  cases tokens with
  | next t position rest => cases t <;> exact ⟨_, position, rfl, fun _ => rfl⟩
  | _ => exact ⟨_, _, rfl, fun _ => rfl⟩

theorem Refusal.at_shift (why : Refusal) (tokens : Tokens) :
    ∃ problem position, why.at tokens = .malformed problem position ∧
      ∀ k, why.at (tokens.shift k) = .malformed problem (position + k) := by
  cases why with
  | unexpected place => exact unexpected_shift place tokens
  | afterArgument name =>
    cases tokens with
    | finish position => exact ⟨_, position, rfl, fun _ => rfl⟩
    | fault cause position => exact unexpected_shift .afterArgument (.fault cause position)
    | next t position rest => exact unexpected_shift .afterArgument (.next t position rest)

/-- Two results that differ in the positions of errors only, which are further on in the
second. -/
def Moved (k : Nat) (x y : Except ParseError Expr) : Prop :=
  (∃ e, x = .ok e ∧ y = .ok e) ∨ (x = .error .tooDeep ∧ y = .error .tooDeep) ∨
    ∃ problem position, x = .error (.malformed problem position) ∧
      y = .error (.malformed problem (position + k))

theorem whole_shift (tokens : Tokens) (k : Nat) :
    Moved k ((whole tokens).map Prod.fst) ((whole (tokens.shift k)).map Prod.fst) := by
  obtain ⟨ts, rest, ending, hbegins, -, hwhole⟩ := runs_whole tokens
  rw [hwhole tokens rest hbegins (.refl rest),
    hwhole _ _ (hbegins.shift k) (rest.similar_shift k)]
  cases ending with
  | read e => exact .inl ⟨e, rfl, rfl⟩
  | tooDeep => exact .inr (.inl ⟨rfl, rfl⟩)
  | refused why =>
    obtain ⟨problem, position, hat, hshift⟩ := why.at_shift rest
    refine .inr (.inr ⟨problem, position, ?_, ?_⟩)
    · rw [← hat]
      rfl
    · rw [← hshift k]
      rfl

/-- A text with something else than white space in it is read by reading its stream. -/
theorem parse_eq_whole {text : String} {offset : Nat} {c : Char} {cs blanks : List Char}
    (hbody : body text.toList = (offset, blanks ++ c :: cs))
    (hblanks : ∀ c ∈ blanks, Unicode.isBlank c = true) (hc : Unicode.isBlank c = false) :
    parse text = (whole (Tokens.scan offset 0 (blanks ++ c :: cs))).map Prod.fst := by
  rw [parse_eq, hbody]
  dsimp only
  split
  · rename_i position hfinish
    rw [scan_blanks hblanks, Tokens.scan, if_neg (Bool.eq_false_iff.mp hc)] at hfinish
    split at hfinish <;> cases hfinish
  · rfl

/-- A formula is read as the text after its equals sign, and the errors point as much
further on as white space and equals sign take up. -/
theorem parse_leading_equals (w t : String) (c : Char)
    (hw : ∀ d ∈ w.toList, Unicode.isBlank d = true)
    (ht : t.toList.find? (fun d => !Unicode.isBlank d) = some c) (hc : c ≠ '=') :
    (∃ e, parse t = .ok e ∧ parse (w ++ "=" ++ t) = .ok e) ∨
    (parse t = .error .tooDeep ∧ parse (w ++ "=" ++ t) = .error .tooDeep) ∨
    ∃ problem position, parse t = .error (.malformed problem position) ∧
      parse (w ++ "=" ++ t) = .error (.malformed problem (position + (w.utf8ByteSize + 1))) := by
  obtain ⟨hblank, blanks, cs, htext, hblanks⟩ := List.find?_eq_some_iff_append.mp ht
  have hblanks : ∀ d ∈ blanks, Unicode.isBlank d = true := fun d hd => by simpa using hblanks d hd
  have hblank : Unicode.isBlank c = false := by simpa using hblank
  have hbody : body t.toList = (byteLength blanks, [] ++ c :: cs) := by
    rw [htext]
    refine body_plain hblanks ?_
    rintro d ⟨⟩
    exact ⟨hblank, hc⟩
  have hbody' : body (w ++ "=" ++ t).toList = (byteLength w.toList + 1, blanks ++ c :: cs) := by
    rw [String.toList_append, String.toList_append, List.append_assoc, htext]
    exact body_equals hw _
  -- in the one text the white space is cut off, in the other it is scanned
  have hstream : Tokens.scan (byteLength w.toList + 1) 0 (blanks ++ c :: cs) =
      (Tokens.scan (byteLength blanks) 0 ([] ++ c :: cs)).shift (byteLength w.toList + 1) := by
    rw [← Tokens.scan_shift, scan_blanks hblanks, Nat.add_comm]
    rfl
  rw [parse_eq_whole hbody (List.forall_mem_nil _) hblank, parse_eq_whole hbody' hblanks hblank, hstream,
    byteLength_toList]
  exact whole_shift _ _

/-- White space of several bytes on both sides of the equals sign, and a number where an
operator is missing. -/
theorem parse_leading_equals_blanks :
    (∀ d ∈ "\u00A0".toList, Unicode.isBlank d = true) ∧
    " 1 2".toList.find? (fun d => !Unicode.isBlank d) = some '1' ∧ '1' ≠ '=' ∧
    Moved ("\u00A0".utf8ByteSize + 1) (parse " 1 2") (parse ("\u00A0" ++ "=" ++ " 1 2")) := by
  have hw : ∀ d ∈ "\u00A0".toList, Unicode.isBlank d = true :=
    List.all_eq_true.mp (by decide)
  have ht : " 1 2".toList.find? (fun d => !Unicode.isBlank d) = some '1' := by decide
  exact ⟨hw, ht, by decide, parse_leading_equals _ _ '1' hw ht (by decide)⟩

end Formula

end Worksheet
