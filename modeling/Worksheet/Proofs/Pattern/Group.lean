import Mathlib.Data.Option.Basic
import Worksheet.Proofs.Pattern.Steady

/- Worksheet Steady Groups — the starts of groups, and counts.

   What stands between a parenthesis and the inside of its group, and between the braces of a
   repetition, is read in the same way with the closing after it. -/
namespace Worksheet.PatternTree

open Reader
open Unicode (isBlank)

variable {dead : List Char → Prop} {n : Nat}

/-! ## Groups -/

/-- A group that has a name, after its angle bracket. -/
def namedGroup : Reader Opening :=
  upTo (· != '>') fun taken _ =>
    match taken with
    | [] => fail
    | c :: more =>
      if namesGroup true c && more.all (namesGroup false) then
        result (.group ⟨[], []⟩ (some (String.ofList (c :: more))))
      else fail

/-- The characters that flags are written in. -/
def spellsFlag (c : Char) : Bool := c != ':' && c != ')'

/-- Flags, for the group around them or for one of their own. -/
def flagged : Reader Opening :=
  upTo spellsFlag fun taken c =>
    given (flagsOf? taken) fun change =>
      if c = ')' then
        if (change.turnedOn ++ change.turnedOff).isEmpty then fail else result (.flags change)
      else result (.group change none)

theorem namedGroup_eq (cs : List Char) :
    ((groupName cs).map fun (name, rest) => (Opening.group ⟨[], []⟩ (some name), rest)) =
      namedGroup cs := by
  rw [groupName, namedGroup, upTo]
  cases hdrop : cs.dropWhile (· != '>') with
  | nil => simp
  | cons c rest =>
    cases htake : cs.takeWhile (· != '>') with
    | nil => rfl
    | cons d more =>
      dsimp only
      split_ifs <;> rfl

theorem flags_eq (cs : List Char) :
    (match cs.dropWhile spellsFlag with
      | ')' :: rest => do
        let change ← flagsOf? (cs.takeWhile spellsFlag)
        guard !(change.turnedOn ++ change.turnedOff).isEmpty
        return (Opening.flags change, rest)
      | _ :: rest =>
        (flagsOf? (cs.takeWhile spellsFlag)).map fun change => (.group change none, rest)
      | [] => none) = flagged cs := by
  rw [flagged, upTo]
  split
  · rename_i rest hdrop
    rw [hdrop]
    dsimp only [given]
    cases flagsOf? (cs.takeWhile spellsFlag) with
    | none => rfl
    | some change =>
      obtain ⟨on, off⟩ := change
      cases on <;> cases off <;> rfl
  · rename_i c rest hclose hdrop
    rw [hdrop]
    dsimp only [given]
    simp only [if_neg hclose]
    exact Option.map_eq_bind
  · rename_i hdrop
    rw [hdrop]

theorem openGroup_eq (blanks : Bool) :
    openGroup blanks = Reader.after blanks (peek '?'
      (peek '=' fail (peek '!' fail (peek '<' (peek '=' fail (peek '!' fail namedGroup))
        (pair 'P' '<' namedGroup flagged))))
      (result (.group ⟨[], []⟩ none))) := by
  funext cs
  rw [openGroup, Reader.after]
  generalize skip blanks cs = cs
  simp only [namedGroup_eq]
  split
  · rfl
  · rfl
  · rfl
  · rfl
  · rfl
  · rename_i hequals hbang
    rw [peek_self, peek_of_ne (by simp), peek_of_ne (by simp), peek_self, peek_of_ne hequals,
      peek_of_ne hbang]
  · rename_i cs hequals hbang _ _ hname hangle
    rw [peek_self, peek_of_ne hequals, peek_of_ne hbang, peek_of_ne hangle]
    refine (flags_eq cs).trans ?_
    rw [pair_of_ne hname]
  · rename_i h
    rw [peek_of_ne h]
    rfl

theorem openGroup_steady (hspent : Spent dead) (blanks : Bool) :
    Steady dead n (fun _ => True) (openGroup blanks) (openGroup blanks) := by
  have hnamed : Steady dead n (fun _ => True) namedGroup namedGroup := by
    refine .upTo hspent fun taken _ => ?_
    cases taken with
    | nil => exact .fail
    | cons c more => exact .ite (.result trivial) .fail
  have hflags : Steady dead n (fun _ => True) flagged flagged := by
    exact .upTo hspent fun taken c => .given fun change _ =>
      .ite (.ite .fail (.result trivial)) (.result trivial)
  have hangle : Steady dead n (fun _ => True) (peek '=' fail (peek '!' fail namedGroup))
      (peek '=' fail (peek '!' fail namedGroup)) :=
    .peek (by decide) .fail (.peek (by decide) .fail hnamed)
  rw [openGroup_eq]
  refine .after (.peek (by decide) (.peek (by decide) .fail (.peek (by decide) .fail ?_))
    (.result trivial)) blanks
  exact .peek (by decide) hangle (.pair (by decide) (by decide) hnamed hflags (Nat.le_succ n))

/-! ## Counts -/

/-- The number that digits denote, with the blanks after it. -/
def counted (digits : List Char) : Reader Nat := fun cs =>
  if digits.isEmpty || UInt32.size ≤ Token.digitsValue digits then none
  else some (Token.digitsValue digits, cs.dropWhile isBlank)

theorem countOf_eq (blanks : Bool) (cs : List Char) :
    countOf blanks cs =
      counted (spread blanks Token.isDigit false (cs.dropWhile isBlank)).1
        (spread blanks Token.isDigit false (cs.dropWhile isBlank)).2 := rfl

theorem counted_blind (digits : List Char) : Blind (counted digits) := by
  intro cs
  rw [counted, counted, dropWhile_closing isBlank_parenthesis]
  split_ifs <;> rfl

theorem countOf_steady (blanks : Bool) :
    Steady dead n (fun _ => True) (countOf blanks) (countOf blanks) := by
  have hcounted (digits : List Char) : Sound (fun _ => True) (counted digits) := by
    intro cs m rest hr
    rw [counted] at hr
    split_ifs at hr
    cases hr
    exact ⟨List.dropWhile_suffix _, trivial⟩
  have hsound : Sound (fun _ => True) (countOf blanks) := by
    intro cs m rest hr
    rw [countOf_eq] at hr
    exact ⟨((hcounted _ _ m rest hr).1.trans (spread_suffix ..)).trans (List.dropWhile_suffix _),
      trivial⟩
  refine ⟨hsound, hsound, fun {cs} _ => ?_, fun _ => rfl⟩
  rw [countOf_eq, countOf_eq, dropWhile_closing isBlank_parenthesis]
  generalize cs.dropWhile isBlank = cs
  have hleft (digits : List Char) : Steady dead (cs.length + 1) (fun _ => True) (counted digits)
      (counted digits) := .of_blind (counted_blind digits) (hcounted digits)
  rcases spread_closing Token.isDigit (by decide) false cs with heq | ⟨hnil, heq⟩
  · rw [heq]
    exact (hleft _).carried (Nat.lt_succ_of_le (spread_suffix ..).length_le)
  · rw [heq, hnil]
    exact (hleft _).carried_nil (Nat.succ_pos _)

/-- The rest of the braces of a repetition after its least number. -/
def countsEnd (blanks : Bool) (least : Nat) : Reader (Option Nat) :=
  peek '\x7d' (result (some least))
    (peek ','
      (Reader.after blanks (peek '\x7d' (result none)
        (Reader.bind (countOf blanks) fun most => peek '\x7d' (result (some most)) fail)))
      fail)

theorem counts_eq (blanks : Bool) :
    counts blanks = Reader.bind (Reader.after blanks (countOf blanks)) fun least =>
      Reader.bind (countsEnd blanks least) fun most =>
        given (if most.all (least ≤ ·) then some () else none) fun _ =>
          Reader.after blanks (result (least, most)) := by
  funext cs
  rw [counts]
  refine congrArg _ (funext fun r => ?_)
  obtain ⟨least, rest⟩ := r
  dsimp only
  rw [Reader.bind, countsEnd]
  split
  · rw [peek_self]
    rfl
  · rename_i rest
    rw [peek_of_ne (by simp), peek_self, Reader.after]
    split
    · rename_i heq
      rw [heq, peek_self]
      rfl
    · rename_i hbrace
      rw [peek_of_ne hbrace, Reader.bind]
      split
      · rename_i heq
        rw [heq]
        rfl
      · rename_i hnone
        cases hcount : countOf blanks (skip blanks rest) with
        | none => rfl
        | some r =>
          obtain ⟨most, left⟩ := r
          have hleft : ∀ rest, left ≠ '\x7d' :: rest := fun rest heq =>
            hnone most rest (heq ▸ hcount)
          rw [Option.bind_some, peek_of_ne hleft]
          rfl
  · rename_i hbrace hcomma
    rw [peek_of_ne hbrace, peek_of_ne hcomma]
    rfl

/-- The counts of a repetition are read in the same way with the closing after them, and the
greatest is not below the least. -/
theorem counts_steady (hspent : Spent dead) (blanks : Bool) :
    Steady dead n (fun r => ∀ m, r.2 = some m → r.1 ≤ m) (counts blanks) (counts blanks) := by
  have hend (least : Nat) :
      Steady dead n (fun _ => True) (countsEnd blanks least) (countsEnd blanks least) := by
    refine .peek (by decide) (.result trivial) (.peek (by decide) ?_ .fail)
    refine .after (.peek (by decide) (.result trivial) ?_) blanks
    exact .bind hspent (countOf_steady blanks) fun most _ =>
      .peek (by decide) (.result trivial) .fail
  rw [counts_eq]
  refine .bind hspent ((countOf_steady blanks).after blanks) fun least _ => ?_
  refine .bind hspent (hend least) fun most _ => .given fun _ hmost => ?_
  refine .after (.result ?_) blanks
  rintro m rfl
  exact of_decide_eq_true (Option.ite_none_right_eq_some.mp hmost).1

/-! ## Lazy repetitions -/

/-- The question mark that makes a repetition lazy is skipped first. -/
def lazily {α : Type} (x : Reader α) : Reader α := fun cs => x (skipLazy cs)

theorem lazily_eq {α : Type} (x : Reader α) : lazily x = peek '?' x x := by
  funext cs
  unfold lazily skipLazy
  split
  · exact (peek_self _ _ _ _).symm
  · rename_i hne
    exact (peek_of_ne hne _ _).symm

theorem lazily_steady {α : Type} {p : α → Prop} {x y : Reader α} (h : Steady dead n p x y) :
    Steady dead n p (lazily x) (lazily y) := by
  rw [lazily_eq, lazily_eq]
  exact .peek (by decide) h h

end Worksheet.PatternTree
