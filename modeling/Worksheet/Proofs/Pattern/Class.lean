import Worksheet.Proofs.Pattern.Escape

/- Worksheet Steady Classes — the insides of brackets.

   A class ends with a bracket, and there is none in the closing. So a class that is not
   complete stays so, and of a complete one all is left that stands after its bracket. -/
namespace Worksheet.PatternTree

open Reader
open Unicode (isBlank)

variable {n : Nat} {blanks : Bool}

/-- Texts in which no class ends. -/
def Unclosed (cs : List Char) : Prop := ']' ∉ cs

theorem spent_unclosed : Spent Unclosed where
  dollar := by simp [Unclosed]
  suffix hsuffix hcs hmem := hcs (hsuffix.mem hmem)

theorem unclosed_closing : Unclosed closing := by simp [Unclosed, closing]

/-! ## Ranges -/

theorem classPart_eq (blanks : Bool) :
    classPart blanks = peek '\\' (escape blanks) (next fun c => result (.literal ⟨c, false⟩)) := by
  funext cs
  unfold classPart
  split
  · rfl
  · exact (peek_self _ _ _ _).symm
  · rename_i h
    rw [peek_of_ne fun rest heq => h (List.cons.inj heq).1]
    rfl

/-- One end of a range is steady with what goes on after it, if that fails after a word
boundary. -/
theorem classPart_bind {dead' : List Char → Prop} {α : Type} {p : α → Prop}
    {f g : PatternTree → Reader α} (blanks : Bool)
    (hf : ∀ t, t.Proper → Steady dead' n p (f t) (g t))
    (hdead : ∀ t, t.Proper → ∀ cs a rest, Unclosed cs → g t cs = some (a, rest) → dead' rest)
    (hanchor : ∀ cs, g (.anchor .wordBoundary) cs = none) :
    Steady dead' (n + 1) p (Reader.bind (classPart blanks) f)
      (Reader.bind (classPart blanks) g) := by
  rw [classPart_eq, peek_bind, peek_bind, next_bind, next_bind]
  refine .peek (by decide) (escape_bind spent_unclosed blanks hf hdead fun cs _ => hanchor _) ?_
  exact .next' (fun c => hf _ trivial) fun a rest =>
    hdead (.literal ⟨')', false⟩) trivial ['$'] a rest spent_unclosed.dollar

/-- The last end of a range. -/
def rangeTo (blanks : Bool) (first : PatternTree) : Reader ClassTree :=
  Reader.bind (classPart blanks) fun last =>
    match first, last with
    | .literal a, .literal b => if a.char ≤ b.char then result (.range a b) else fail
    | _, _ => fail

/-- The dash stands before a bracket or another dash, so it is left for later. -/
def keepsDash (blanks : Bool) (after : List Char) : Bool :=
  (peekChar blanks after).any fun c => c == ']' || c == '-'

/-- What follows the dash after the first part of a range. -/
def rangeDash (blanks : Bool) (first : PatternTree) (after : List Char) :
    Option (ClassTree × List Char) :=
  if keepsDash blanks after then given (classItem? first) result ('-' :: after)
  else Reader.after blanks (rangeTo blanks first) after

/-- What follows the first part of a range, or of no range. -/
def rangeEnd (blanks : Bool) (first : PatternTree) : Reader ClassTree
  | [] => none
  | c :: after =>
    if c = '-' then rangeDash blanks first after
    else given (classItem? first) result (c :: after)

theorem rangeDash_eq (blanks : Bool) (first : PatternTree) (after : List Char) :
    (if (peekChar blanks after).any fun c => c == ']' || c == '-' then do
        return (← classItem? first, '-' :: after)
      else do
        let (last, rest) ← classPart blanks (skip blanks after)
        match first, last with
        | .literal a, .literal b =>
          if a.char ≤ b.char then return (ClassTree.range a b, rest) else none
        | _, _ => none) = rangeDash blanks first after := by
  rw [rangeDash]
  refine ite_congr rfl (fun _ => rfl) fun _ => congrArg _ (funext fun r => ?_)
  obtain ⟨last, rest⟩ := r
  dsimp only
  split
  · split_ifs <;> rfl
  · rfl

theorem classRange_eq (blanks : Bool) :
    classRange blanks =
      Reader.bind (classPart blanks) fun first => Reader.after blanks (rangeEnd blanks first) := by
  funext cs
  rw [classRange]
  refine congrArg _ (funext fun r => ?_)
  obtain ⟨first, rest⟩ := r
  dsimp only [Reader.after]
  generalize skip blanks rest = rest
  split
  · rfl
  · exact rangeDash_eq blanks first _
  · rename_i hnil hdash
    cases rest with
    | nil => exact absurd rfl hnil
    | cons c after => exact (if_neg fun hc => hdash after (congrArg (· :: after) hc)).symm

/-- What the ends of a range make of it. -/
theorem range_steady (first last : PatternTree) :
    Steady Unclosed n (fun _ => True)
      (match first, last with
        | .literal a, .literal b => if a.char ≤ b.char then result (.range a b) else fail
        | _, _ => fail : Reader ClassTree)
      (match first, last with
        | .literal a, .literal b => if a.char ≤ b.char then result (.range a b) else fail
        | _, _ => fail) := by
  split
  · exact .ite (.result trivial) .fail
  · exact .fail

theorem rangeTo_steady (blanks : Bool) (first : PatternTree) :
    Steady Unclosed n (fun _ => True) (rangeTo blanks first) (rangeTo blanks first) := by
  have hrange (last : PatternTree) := @range_steady n first last
  refine .mono (classPart_bind blanks (fun last _ => hrange last) ?_ ?_) (Nat.le_succ n)
  · exact fun last _ cs a rest hcs hr => (hrange last).dead_of_eq spent_unclosed hcs hr
  · intro cs
    cases first <;> rfl

theorem item_carried (o : Option ClassTree) (cs : List Char) :
    Carried Unclosed (given o result cs) (given o result (cs ++ closing)) := by
  cases o with
  | none => exact fun _ _ h => nomatch h
  | some item => exact .inl rfl

theorem rangeDash_suffix {first : PatternTree} {after rest : List Char} {item : ClassTree}
    (h : rangeDash blanks first after = some (item, rest)) : rest <:+ '-' :: after := by
  rw [rangeDash] at h
  split_ifs at h
  · obtain ⟨item', -, heq⟩ := Option.bind_eq_some_iff.mp h
    cases heq
    exact List.suffix_rfl
  · have hrest := (((@rangeTo_steady 0 blanks first).sound.after blanks) _ item rest h).1
    exact hrest.trans (List.suffix_cons _ after)

/-- The parenthesis of the closing is neither a bracket nor a dash. -/
theorem keepsDash_closing (blanks : Bool) (after : List Char) :
    keepsDash blanks (after ++ closing) = keepsDash blanks after := by
  have hhead (cs : List Char) : ((cs ++ closing).head?.any fun c => c == ']' || c == '-') =
      cs.head?.any fun c => c == ']' || c == '-' := by
    cases cs <;> rfl
  rw [keepsDash, keepsDash, peekChar, peekChar]
  split_ifs
  · rw [dropWhile_closing isBlank_parenthesis]
    cases after.dropWhile isBlank with
    | nil => rfl
    | cons c cs =>
      by_cases hc : c = '#'
      · subst hc
        change ((cs ++ closing).dropWhile isBlank).head?.any _ = (cs.dropWhile isBlank).head?.any _
        rw [dropWhile_closing isBlank_parenthesis]
        exact hhead _
      · simp [hc]
  · exact hhead after

theorem rangeDash_carried (first : PatternTree) (after : List Char) :
    Carried Unclosed (rangeDash blanks first after) (rangeDash blanks first (after ++ closing)) := by
  rw [rangeDash, rangeDash, keepsDash_closing]
  split_ifs
  · exact item_carried (classItem? first) ('-' :: after)
  · exact ((rangeTo_steady blanks first).after blanks).carried (Nat.lt_succ_self after.length)

theorem rangeEnd_steady (blanks : Bool) (first : PatternTree) :
    Steady Unclosed n (fun _ => True) (rangeEnd blanks first) (rangeEnd blanks first) := by
  have hitem {o : Option ClassTree} {cs : List Char} {item : ClassTree} {rest : List Char}
      (h : given o result cs = some (item, rest)) : rest = cs := by
    obtain ⟨item', -, heq⟩ := Option.bind_eq_some_iff.mp h
    cases heq
    rfl
  have hsound : Sound (fun _ => True) (rangeEnd blanks first) := by
    intro cs item rest hr
    refine ⟨?_, trivial⟩
    cases cs with
    | nil => exact nomatch hr
    | cons c after =>
      rw [rangeEnd] at hr
      split_ifs at hr with hc
      · exact hc ▸ rangeDash_suffix hr
      · exact hitem hr ▸ List.suffix_rfl
  refine ⟨hsound, hsound, fun {cs} _ => ?_, fun _ => rfl⟩
  cases cs with
  | nil => exact fun item rest hr => hitem hr ▸ unclosed_closing
  | cons c after =>
    rw [List.cons_append, rangeEnd, rangeEnd]
    split_ifs
    · exact rangeDash_carried first after
    · exact item_carried (classItem? first) (c :: after)

/-- No range starts with an anchor, and in a class no anchor stands alone. -/
theorem rangeEnd_anchor (blanks : Bool) (a : Anchor) (cs : List Char) :
    rangeEnd blanks (.anchor a) cs = none := by
  cases cs with
  | nil => rfl
  | cons c after =>
    rw [rangeEnd, rangeDash]
    split_ifs
    · rfl
    · exact Option.bind_eq_none_iff.mpr fun r _ => rfl
    · rfl

/-! ## Starts -/

/-- A class whose text starts with some dashes, after them. A bracket without dashes before it
is literal. -/
def startAfter (negated : Bool) (dashes : List Char) : Reader (Bool × List ClassTree) :=
  if dashes.isEmpty then
    peek ']' (result (negated, [.literal ⟨']', false⟩])) (result (negated, []))
  else result (negated, dashes.map fun c => .literal ⟨c, false⟩)

/-- What is literal only at the start of a class. -/
def classStart (blanks negated : Bool) : Reader (Bool × List ClassTree) := fun cs =>
  startAfter negated (spread blanks (· == '-') false cs).1 (spread blanks (· == '-') false cs).2

/-- The start of a class after its bracket. -/
def opened (blanks : Bool) : Reader (Bool × List ClassTree) := fun cs =>
  let (negated, start, rest) := openClass blanks cs
  some ((negated, start), rest)

theorem startAfter_eq (negated : Bool) (r : List Char × List Char) :
    (let (negated, start, rest) :=
      match r with
      | ([], ']' :: rest) => (negated, [.literal ⟨']', false⟩], rest)
      | (dashes, rest) => (negated, dashes.map fun c => ClassTree.literal ⟨c, false⟩, rest)
    some ((negated, start), rest)) = startAfter negated r.1 r.2 := by
  obtain ⟨dashes, cs⟩ := r
  rw [startAfter]
  split_ifs with hempty
  · obtain rfl : dashes = [] := List.isEmpty_iff.mp hempty
    dsimp only
    by_cases h : ∃ rest, cs = ']' :: rest
    · obtain ⟨rest, rfl⟩ := h
      rw [peek_self]
      rfl
    · have hne : ∀ rest, cs ≠ ']' :: rest := fun rest heq => h ⟨rest, heq⟩
      rw [peek_of_ne hne]
      split
      · rename_i rest hr
        exact absurd (Prod.mk.inj hr).2 (hne rest)
      · rename_i hr
        cases hr
        rfl
  · cases dashes with
    | nil => exact absurd rfl hempty
    | cons d dashes => rfl

theorem opened_eq (blanks : Bool) :
    opened blanks =
      Reader.after blanks
        (peek '^' (Reader.after blanks (classStart blanks true)) (classStart blanks false)) := by
  funext cs
  rw [opened, openClass, Reader.after]
  generalize skip blanks cs = cs
  split
  rename_i hstart
  let pack (r : Bool × List ClassTree × List Char) := some ((r.1, r.2.1), r.2.2)
  split at hstart
  rename_i hcaret
  split at hcaret
  · cases hcaret
    rw [peek_self]
    exact (congrArg pack hstart.symm).trans (startAfter_eq true _)
  · rename_i hne
    cases hcaret
    rw [peek_of_ne hne]
    exact (congrArg pack hstart.symm).trans (startAfter_eq false _)

theorem startAfter_steady {dead : List Char → Prop} (negated : Bool) (dashes : List Char) :
    Steady dead n (fun _ => True) (startAfter negated dashes) (startAfter negated dashes) := by
  exact .ite (.peek (by decide) (.result trivial) (.result trivial)) (.result trivial)

theorem classStart_steady {dead : List Char → Prop} (blanks negated : Bool) :
    Steady dead n (fun _ => True) (classStart blanks negated) (classStart blanks negated) := by
  have hstart (dashes : List Char) := @startAfter_steady n dead negated dashes
  have hsound : Sound (fun _ => True) (classStart blanks negated) := by
    intro cs r rest hr
    exact ⟨((hstart _).sound _ r rest hr).1.trans (spread_suffix ..), trivial⟩
  refine ⟨hsound, hsound, fun {cs} hcs => ?_, fun _ => rfl⟩
  rw [classStart, classStart]
  rcases spread_closing (· == '-') (by decide) false cs with heq | ⟨hnil, heq⟩
  · rw [heq]
    exact (hstart _).carried (Nat.lt_of_le_of_lt (spread_suffix ..).length_le hcs)
  · rw [heq, hnil]
    exact (hstart _).carried_nil (Nat.zero_lt_of_lt hcs)

theorem opened_steady {dead : List Char → Prop} (blanks : Bool) :
    Steady dead n (fun _ => True) (opened blanks) (opened blanks) := by
  rw [opened_eq]
  exact .after (.peek (by decide) (.after (classStart_steady blanks true) blanks)
    (classStart_steady blanks false)) blanks

/-- The name of a class between its colons. -/
def posixName (negated : Bool) : Reader ClassTree :=
  upTo (· != ':') fun taken c =>
    if c = ':' then
      peek ']'
        (if (CharSet.posix? (String.ofList taken)).isSome then
          result (.posix (String.ofList taken) negated)
        else fail)
        fail
    else fail

theorem posixName_eq (negated : Bool) (cs : List Char) :
    (match cs.dropWhile (· != ':') with
      | ':' :: ']' :: rest =>
        if (CharSet.posix? (String.ofList (cs.takeWhile (· != ':')))).isSome then
          some (.posix (String.ofList (cs.takeWhile (· != ':'))) negated, rest)
        else none
      | _ => none) = posixName negated cs := by
  rw [posixName, upTo]
  split
  · rename_i rest hdrop
    rw [hdrop]
    dsimp only
    rw [if_pos rfl, peek_self]
    split_ifs <;> rfl
  · rename_i hname
    cases hdrop : cs.dropWhile (· != ':') with
    | nil => rfl
    | cons c left =>
      dsimp only
      by_cases hc : c = ':'
      · have hne : ∀ rest, left ≠ ']' :: rest := fun rest heq =>
          hname rest (hdrop.trans (by rw [hc, heq]))
        rw [if_pos hc, peek_of_ne hne]
        rfl
      · rw [if_neg hc]
        rfl

theorem posixClass?_eq :
    posixClass? = peek ':' (peek '^' (posixName true) (posixName false)) fail := by
  funext cs
  unfold posixClass?
  split
  · rename_i cs
    rw [peek_self]
    split
    rename_i hcaret
    split at hcaret
    · cases hcaret
      rw [peek_self]
      exact posixName_eq true _
    · rename_i hne
      cases hcaret
      rw [peek_of_ne hne]
      exact posixName_eq false _
  · rename_i hne
    rw [peek_of_ne hne]
    rfl

theorem posixClass?_blind : Blind posixClass? := by
  have hname (negated : Bool) : Blind (posixName negated) := by
    exact .upTo (by decide) fun taken c => .ite (.peek (by decide) (.ite (.result _) .fail) .fail) .fail
  rw [posixClass?_eq]
  exact .peek (by decide) (.peek (by decide) (hname true) (hname false)) .fail

theorem posixClass?_sound : Sound (fun _ => True) posixClass? := by
  have hname (negated : Bool) : Sound (fun _ => True) (posixName negated) := by
    exact .upTo fun taken c => .ite (.peek (.ite (.result trivial) .fail) .fail) .fail
  rw [posixClass?_eq]
  exact .peek (.peek (hname true) (hname false)) .fail

/-! ## Classes -/

/-- A class in the class around it, whose rest `body` reads. -/
def classInner (body : Option (ClassOp × ClassTree) → List ClassTree → Reader ClassTree)
    (blanks : Bool) (pending : Option (ClassOp × ClassTree)) (items : List ClassTree) :
    Reader ClassTree :=
  orElse posixClass? (fun item => body pending (item :: items))
    (Reader.bind (opened blanks) fun r => Reader.bind (body none r.2.reverse) fun inside =>
      body pending (.bracket r.1 inside :: items))

/-- One item or operation of a class, whose rest `body` reads. -/
def classStep (body : Option (ClassOp × ClassTree) → List ClassTree → Reader ClassTree)
    (blanks : Bool) (pending : Option (ClassOp × ClassTree)) (items : List ClassTree) :
    Reader ClassTree :=
  peek ']' (result (applyOp pending items))
    (peek '[' (classInner body blanks pending items)
      (pair '&' '&' (body (some (.intersection, applyOp pending items)) [])
        (pair '-' '-' (body (some (.difference, applyOp pending items)) [])
          (pair '~' '~' (body (some (.symmetricDifference, applyOp pending items)) [])
            (Reader.bind (classRange blanks) fun item => body pending (item :: items))))))

theorem classBody_succ (blanks : Bool) (fuel : Nat) (pending : Option (ClassOp × ClassTree))
    (items : List ClassTree) :
    classBody blanks (fuel + 1) pending items =
      Reader.after blanks (classStep (classBody blanks fuel) blanks pending items) := by
  funext cs
  rw [classBody, Reader.after, classStep]
  generalize skip blanks cs = cs
  split
  · rfl
  · rw [peek_self]
    rfl
  · rename_i rest
    rw [peek_of_ne (by simp), peek_self, classInner, orElse]
    cases posixClass? rest <;> rfl
  · rw [peek_of_ne (by simp), peek_of_ne (by simp), pair_self]
  · rw [peek_of_ne (by simp), peek_of_ne (by simp), pair_of_ne (by simp), pair_self]
  · rw [peek_of_ne (by simp), peek_of_ne (by simp), pair_of_ne (by simp), pair_of_ne (by simp),
      pair_self]
  · rename_i hclose hopen hand hdash htilde
    rw [peek_of_ne hclose, peek_of_ne hopen, pair_of_ne hand, pair_of_ne hdash,
      pair_of_ne htilde]
    rfl

theorem classRange_sound (blanks : Bool) : Sound (fun _ => True) (classRange blanks) := by
  have hpart : Sound Proper (classPart blanks) := by
    rw [classPart_eq]
    exact .peek (escape_sound spent_unclosed blanks) (.next fun c => .result trivial)
  have hend (first : PatternTree) := (@rangeEnd_steady 0 blanks first).sound
  rw [classRange_eq]
  exact hpart.bind fun first _ => (hend first).after blanks

theorem bind_unclosed {α β : Type} {p : α → Prop} {x : Reader α} {f : α → Reader β}
    (hx : Sound p x) (hf : ∀ a cs, Unclosed cs → f a cs = none) {cs : List Char}
    (h : Unclosed cs) : Reader.bind x f cs = none := by
  refine Option.bind_eq_none_iff.mpr fun r hr => ?_
  exact hf r.1 r.2 (spent_unclosed.suffix (hx cs r.1 r.2 hr).1 h)

/-- No class ends in the text. -/
theorem classBody_unclosed (blanks : Bool) (fuel : Nat) (pending : Option (ClassOp × ClassTree))
    (items : List ClassTree) (cs : List Char) (h : Unclosed cs) :
    classBody blanks fuel pending items cs = none := by
  induction fuel generalizing pending items cs with
  | zero => rfl
  | succ fuel ih =>
    have hskip : Unclosed (skip blanks cs) := spent_unclosed.suffix (skip_suffix blanks cs) h
    rw [classBody_succ, Reader.after, classStep]
    generalize skip blanks cs = cs at hskip
    have hopened : Steady Unclosed 0 (fun _ => True) (opened blanks) _ := opened_steady blanks
    have htail {c : Char} {rest : List Char} (heq : cs = c :: rest) : Unclosed rest :=
      spent_unclosed.suffix (heq ▸ List.suffix_cons c rest) hskip
    have htail₂ {c d : Char} {rest : List Char} (heq : cs = c :: d :: rest) : Unclosed rest :=
      spent_unclosed.suffix (List.suffix_cons d rest) (htail heq)
    refine peek_eq_none (fun rest heq => absurd (heq ▸ List.mem_cons_self) hskip) ?_
    refine peek_eq_none (fun rest heq => ?_) (pair_eq_none (fun rest heq => ih _ _ rest (htail₂ heq))
      (pair_eq_none (fun rest heq => ih _ _ rest (htail₂ heq))
        (pair_eq_none (fun rest heq => ih _ _ rest (htail₂ heq)) ?_)))
    · rw [classInner, orElse]
      split
      · rename_i item left hleft
        have hsuffix := (posixClass?_sound rest item left hleft).1
        exact ih _ _ left (spent_unclosed.suffix hsuffix (htail heq))
      · exact bind_unclosed hopened.sound (fun r cs hcs => Option.bind_eq_none_iff.mpr fun r' hr =>
          absurd (ih _ _ cs hcs) (hr ▸ Option.some_ne_none r')) (htail heq)
    · exact bind_unclosed (classRange_sound blanks) (fun item cs hcs => ih _ _ cs hcs) hskip

/-- No text at all is left. -/
def Never (_ : List Char) : Prop := False

theorem classStep_steady
    {body body' : Option (ClassOp × ClassTree) → List ClassTree → Reader ClassTree}
    (hbody : ∀ pending items, Steady Never n (fun _ => True) (body pending items)
      (body' pending items))
    (hunclosed : ∀ pending items cs, Unclosed cs → body' pending items cs = none)
    (pending : Option (ClassOp × ClassTree)) (items : List ClassTree) :
    Steady Never (n + 1) (fun _ => True) (classStep body blanks pending items)
      (classStep body' blanks pending items) := by
  have hinner : Steady Never n (fun _ => True) (classInner body blanks pending items)
      (classInner body' blanks pending items) := by
    have hopened : Steady Never n (fun _ => True) (opened blanks) (opened blanks) :=
      opened_steady blanks
    refine .orElse posixClass?_blind posixClass?_sound (fun item _ => hbody _ _) ?_
    refine hopened.bind' (fun r _ => ?_) fun _ _ _ _ _ h => h.elim
    exact (hbody none _).bind' (fun inside _ => hbody _ _) fun _ _ _ _ _ h => h.elim
  have hrange : Steady Never (n + 1) (fun _ => True)
      (Reader.bind (classRange blanks) fun item => body pending (item :: items))
      (Reader.bind (classRange blanks) fun item => body' pending (item :: items)) := by
    have hend (first : PatternTree) := (@rangeEnd_steady n blanks first).after blanks
    rw [classRange_eq, bind_assoc, bind_assoc]
    refine classPart_bind blanks (fun first _ => ?_) (fun first _ cs a rest hcs hr => ?_) fun cs => ?_
    · refine (hend first).bind' (fun item _ => hbody _ _) fun item _ cs a rest hcs hr => ?_
      exact nomatch (hunclosed _ _ cs hcs).symm.trans hr
    · have hnone := bind_unclosed (hend first).sound
        (fun item cs hcs => hunclosed pending (item :: items) cs hcs) hcs
      exact nomatch hnone.symm.trans hr
    · exact Option.bind_eq_none_iff.mpr fun r hr =>
        absurd (rangeEnd_anchor blanks .wordBoundary _) (hr ▸ Option.some_ne_none r)
  exact .peek' (by decide) (.result trivial) (.peek' (by decide) hinner
    (.pair (by decide) (by decide) (hbody _ _) (.pair (by decide) (by decide) (hbody _ _)
      (.pair (by decide) (by decide) (hbody _ _) hrange (Nat.le_refl _)) (Nat.le_refl _))
      (Nat.le_refl _)) (Nat.le_refl _)) (Nat.le_refl _)

/-- The inside of a class is read in the same way with the closing after it, with whatever
reserve of steps. -/
theorem classBody_add {extra : Nat}
    (h : ∀ pending items, Sound (fun _ => True) (classBody blanks extra pending items))
    (fuel : Nat) (pending : Option (ClassOp × ClassTree)) (items : List ClassTree) :
    Steady Never fuel (fun _ => True) (classBody blanks fuel pending items)
      (classBody blanks (fuel + extra) pending items) := by
  induction fuel generalizing pending items with
  | zero =>
    rw [Nat.zero_add]
    exact ⟨.fail, h _ _, fun hlt => absurd hlt (Nat.not_lt_zero _), fun hlt =>
      absurd hlt (Nat.not_lt_zero 0)⟩
  | succ fuel ih =>
    rw [Nat.succ_add, classBody_succ, classBody_succ]
    exact (classStep_steady ih (classBody_unclosed blanks _) pending items).after blanks

theorem classBody_steady (extra fuel : Nat) (pending : Option (ClassOp × ClassTree))
    (items : List ClassTree) :
    Steady Never fuel (fun _ => True) (classBody blanks fuel pending items)
      (classBody blanks (fuel + extra) pending items) :=
  classBody_add (fun _ _ => (@classBody_add blanks 0 (fun _ _ => .fail) extra _ _).sound) fuel
    pending items

/-- A class with some reserve of steps, after its bracket. -/
def bracketedIn (blanks : Bool) (fuel : Nat) : Reader PatternTree :=
  Reader.bind (opened blanks) fun r =>
    Reader.bind (classBody blanks fuel none r.2.reverse) fun inside =>
      result (.bracket r.1 inside)

theorem bracketedIn_steady (blanks : Bool) (extra fuel : Nat) :
    Steady Never fuel Proper (bracketedIn blanks fuel) (bracketedIn blanks (fuel + extra)) := by
  have hopened : Steady Never fuel (fun _ => True) (opened blanks) (opened blanks) :=
    opened_steady blanks
  refine hopened.bind' (fun r _ => ?_) fun _ _ _ _ _ h => h.elim
  exact (classBody_steady extra fuel none r.2.reverse).bind' (fun inside _ => .result trivial)
    fun _ _ _ _ _ h => h.elim

/-- A class is read in the same way with the closing after it. -/
theorem bracketed_steady {dead : List Char → Prop} (blanks : Bool) :
    Steady dead n Proper (bracketed blanks) (bracketed blanks) := by
  have hsound : Sound Proper (bracketed blanks) := fun cs =>
    (bracketedIn_steady blanks 0 (cs.length + 1)).sound cs
  refine ⟨hsound, hsound, fun {cs} _ => ?_, fun _ => rfl⟩
  have hcarried := (bracketedIn_steady blanks closing.length (cs.length + 1)).carried
    (Nat.lt_succ_self cs.length)
  have hlength : (cs ++ closing).length + 1 = cs.length + 1 + closing.length := by
    rw [List.length_append, Nat.succ_add]
  have hbracketed : bracketed blanks (cs ++ closing) =
      bracketedIn blanks ((cs ++ closing).length + 1) (cs ++ closing) := rfl
  rw [hbracketed, hlength]
  exact hcarried.mono fun _ h => False.elim h

end Worksheet.PatternTree
