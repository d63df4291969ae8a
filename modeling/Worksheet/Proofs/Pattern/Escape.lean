import Worksheet.Proofs.Pattern.Proper
import Worksheet.Proofs.Pattern.Steady

/- Worksheet Steady Escapes — what stands after a backslash.

   All escapes are steady but one: a word boundary before an open brace takes the brace for
   the start of a name, and with nothing after the brace there is no name, while with the
   closing after it the brace is left for a repetition (`escape_bind`). -/
namespace Worksheet.PatternTree

open Reader

variable {dead : List Char → Prop} {n : Nat}

/-! ## Numbers -/

theorem hexDigits_succ (blanks : Bool) (k v : Nat) :
    hexDigits blanks (k + 1) v =
      next fun c => given (JsonToken.hexDigit? c) fun d =>
        Reader.after blanks (hexDigits blanks k (v * 16 + d)) := by
  funext cs
  cases cs <;> rfl

theorem hexDigits_steady (hspent : Spent dead) (blanks : Bool) (k v : Nat) :
    Steady dead n (fun _ => True) (hexDigits blanks k v) (hexDigits blanks k v) := by
  induction k generalizing v with
  | zero => exact .result trivial
  | succ k ih =>
    rw [hexDigits_succ]
    exact (Steady.next hspent fun c => .given fun d _ => (ih _).after blanks).mono (Nat.le_succ n)

theorem bracedHex_eq (blanks : Bool) :
    bracedHex blanks = spreadTo blanks (· != '\x7d') fun digits _ =>
      given (digits.mapM JsonToken.hexDigit?) result := by
  funext cs
  rw [bracedHex, spreadTo]
  generalize spread blanks (· != '\x7d') false cs = r
  obtain ⟨digits, _ | ⟨c, rest⟩⟩ := r
  · rfl
  · exact Option.map_eq_bind

theorem bracedHex_steady (hspent : Spent dead) (blanks : Bool) :
    Steady dead n (fun _ => True) (bracedHex blanks) (bracedHex blanks) := by
  rw [bracedHex_eq]
  exact .spreadTo hspent fun digits _ => .given fun ds _ => .result trivial

theorem hexEscape_eq (blanks : Bool) (digits : Nat) :
    hexEscape blanks digits = Reader.after blanks (peek '\x7b'
      (Reader.bind (bracedHex blanks) fun ds =>
        given (if ds.isEmpty then none else charOf? (ds.foldl (fun n d => n * 16 + d) 0))
          fun c => Reader.after blanks (result (.literal ⟨c, false⟩)))
      (Reader.bind (hexDigits blanks digits 0) fun v =>
        given (charOf? v) fun c => result (.literal ⟨c, digits = 2⟩))) := by
  funext cs
  rw [hexEscape, Reader.after]
  generalize skip blanks cs = cs
  split
  · rw [peek_self]
    refine congrArg _ (funext fun r => ?_)
    obtain ⟨ds, rest⟩ := r
    cases ds <;> rfl
  · rename_i h
    rw [peek_of_ne h]
    rfl

theorem hexEscape_steady (hspent : Spent dead) (blanks : Bool) (digits : Nat) :
    Steady dead n Proper (hexEscape blanks digits) (hexEscape blanks digits) := by
  rw [hexEscape_eq]
  refine .after (.peek (by decide) ?_ ?_) blanks
  · exact .bind hspent (bracedHex_steady hspent blanks) fun ds _ => .given fun c _ =>
      .after (.result trivial) blanks
  · exact .bind hspent (hexDigits_steady hspent blanks digits 0) fun v _ => .given fun c _ =>
      .result trivial

/-! ## Names -/

theorem propertyEscape_eq (blanks negated : Bool) :
    propertyEscape blanks negated = Reader.after blanks (peek '{'
      (spreadTo blanks (· != '}') fun taken _ =>
        result (.property (String.ofList taken) negated))
      (next fun c => if c = '\\' then fail else result (.property c.toString negated))) := by
  funext cs
  rw [propertyEscape, Reader.after]
  generalize skip blanks cs = cs
  split
  · rfl
  · rename_i cs
    rw [peek_self, spreadTo]
    generalize spread blanks (· != '}') false cs = r
    obtain ⟨taken, _ | ⟨c, rest⟩⟩ := r <;> rfl
  · rename_i c cs h
    rw [peek_of_ne fun rest heq => h (List.cons.inj heq).1, next]
    split_ifs <;> rfl

theorem propertyEscape_steady (hspent : Spent dead) (blanks negated : Bool) :
    Steady dead n Proper (propertyEscape blanks negated)
      (propertyEscape blanks negated) := by
  rw [propertyEscape_eq]
  refine .after (.peek (by decide) ?_ ?_) blanks
  · exact .spreadTo hspent fun taken c => .result trivial
  · exact .mono (.next hspent fun c => .ite .fail (.result trivial)) (Nat.le_succ n)

/-! ## Word boundaries -/

/-- The characters in the names of word boundaries. -/
def namesBoundary (c : Char) : Bool := Token.isLetter c || c == '-'

/-- The name of a word boundary up to its brace. -/
def boundaryName (blanks : Bool) : Reader PatternTree :=
  spreadTo blanks namesBoundary fun taken c =>
    if c = '\x7d' then given (boundary? (String.ofList taken)) fun a => result (.anchor a)
    else fail

theorem boundaryName_sound (blanks : Bool) : Sound Proper (boundaryName blanks) := by
  exact .spreadTo fun taken c => .ite (.given fun a _ => .result trivial) .fail

theorem boundaryName_steady (hspent : Spent dead) (blanks : Bool) :
    Steady dead n Proper (boundaryName blanks) (boundaryName blanks) := by
  exact .spreadTo hspent fun taken c => .ite (.given fun a _ => .result trivial) .fail

theorem boundaryEscape_brace (blanks : Bool) (cs : List Char) :
    boundaryEscape blanks ('\x7b' :: cs) =
      match skip blanks cs with
      | [] => none
      | c :: rest =>
        if namesBoundary c then boundaryName blanks (c :: rest)
        else some (.anchor .wordBoundary, '\x7b' :: cs) := by
  have hnames : (fun c => Token.isLetter c || c == '-') = namesBoundary := rfl
  rw [boundaryEscape]
  cases skip blanks cs with
  | nil => rfl
  | cons c rest =>
    dsimp only
    change (if (!namesBoundary c) = true then _ else _) = _
    cases hc : namesBoundary c with
    | false => rfl
    | true =>
      rw [Bool.not_true, if_neg Bool.false_ne_true, if_pos rfl, boundaryName, spreadTo, hnames]
      generalize spread blanks namesBoundary false (c :: rest) = r
      obtain ⟨name, _ | ⟨d, left⟩⟩ := r
      · rfl
      · by_cases hd : d = '\x7d'
        · subst hd
          exact Option.map_eq_bind
        · simp [hd, Reader.fail]

theorem boundaryEscape_of_ne {cs : List Char} (h : ∀ rest, cs ≠ '\x7b' :: rest) (blanks : Bool) :
    boundaryEscape blanks cs = some (.anchor .wordBoundary, cs) := by
  rw [boundaryEscape]
  exact h

theorem boundaryEscape_sound (blanks : Bool) : Sound Proper (boundaryEscape blanks) := by
  intro cs t rest hr
  by_cases h : ∃ inside, cs = '\x7b' :: inside
  · obtain ⟨inside, rfl⟩ := h
    rw [boundaryEscape_brace] at hr
    split at hr
    · exact nomatch hr
    · rename_i c left hskip
      split at hr
      · have hleft : c :: left <:+ inside := hskip ▸ skip_suffix blanks inside
        have hname := boundaryName_sound blanks _ t rest hr
        exact ⟨(hname.1.trans hleft).trans (List.suffix_cons _ inside), hname.2⟩
      · cases hr
        exact ⟨List.suffix_rfl, trivial⟩
  · rw [boundaryEscape_of_ne fun inside heq => h ⟨inside, heq⟩] at hr
    cases hr
    exact ⟨List.suffix_rfl, trivial⟩

section

variable {dead' : List Char → Prop} {α : Type} {p : α → Prop} {f g : PatternTree → Reader α}

/-- A word boundary is steady with what goes on after it, if that fails with the closing at a
brace with nothing after it. -/
theorem boundaryEscape_bind (hspent : Spent dead) (blanks : Bool)
    (hf : ∀ t, t.Proper → Steady dead' n p (f t) (g t))
    (hdead : ∀ t, t.Proper → ∀ cs a rest, dead cs → g t cs = some (a, rest) → dead' rest)
    (hbrace : ∀ cs, skip blanks cs = [] →
      g (.anchor .wordBoundary) ('\x7b' :: cs ++ closing) = none) :
    Steady dead' n p (Reader.bind (boundaryEscape blanks) f)
      (Reader.bind (boundaryEscape blanks) g) where
  sound := (boundaryEscape_sound blanks).bind fun t ht => (hf t ht).sound
  sound' := (boundaryEscape_sound blanks).bind fun t ht => (hf t ht).sound'
  carried {cs} hcs := by
    have hanchor : Steady dead' n p (f (.anchor .wordBoundary)) (g (.anchor .wordBoundary)) :=
      hf _ trivial
    by_cases h : ∃ inside, cs = '\x7b' :: inside
    · obtain ⟨inside, rfl⟩ := h
      rw [Reader.bind, Reader.bind, List.cons_append, boundaryEscape_brace, boundaryEscape_brace]
      rcases skip_closing blanks inside with hskip | ⟨hskip, hskip'⟩
      · rw [hskip]
        cases hleft : skip blanks inside with
        | nil =>
          intro a rest hr
          exact absurd ((hbrace inside hleft).symm.trans hr) (by simp)
        | cons c left =>
          dsimp only [List.cons_append]
          have hlength : (c :: left).length < n := by
            have hle := (skip_suffix blanks inside).length_le
            rw [hleft] at hle
            exact Nat.lt_of_le_of_lt hle (Nat.lt_of_succ_lt hcs)
          split_ifs
          · exact ((boundaryName_steady hspent blanks).bind' hf hdead).carried hlength
          · exact hanchor.carried hcs
      · rw [hskip, hskip']
        intro a rest hr
        cases hr
    · have hne : ∀ rest, cs ++ closing ≠ '\x7b' :: rest := by
        intro rest heq
        cases cs with
        | nil => exact absurd (List.cons.inj heq).1 (by decide)
        | cons c cs => exact h ⟨cs, congrArg (· :: cs) (List.cons.inj heq).1⟩
      rw [Reader.bind, Reader.bind, boundaryEscape_of_ne fun inside heq => h ⟨inside, heq⟩,
        boundaryEscape_of_ne hne]
      exact hanchor.carried hcs
  start hn := (hf (.anchor .wordBoundary) trivial).start hn

end

/-! ## Escapes -/

/-- What an escape is that is a letter alone. -/
def letterEscape? (blanks : Bool) (c : Char) : Option PatternTree :=
  (escape blanks [c]).map Prod.fst

theorem escape_eq (blanks : Bool) :
    escape blanks = next fun c =>
      if c = 'x' then hexEscape blanks 2
      else if c = 'u' then hexEscape blanks 4
      else if c = 'U' then hexEscape blanks 8
      else if c = 'p' then propertyEscape blanks false
      else if c = 'P' then propertyEscape blanks true
      else if c = 'b' then boundaryEscape blanks
      else given (letterEscape? blanks c) result := by
  funext cs
  cases cs with
  | nil => rfl
  | cons c cs =>
    rw [next]
    split_ifs with hx hu hU hp hP hb
    · rw [hx]; rfl
    · rw [hu]; rfl
    · rw [hU]; rfl
    · rw [hp]; rfl
    · rw [hP]; rfl
    · rw [hb]; rfl
    · dsimp only [given, letterEscape?, escape]
      split <;> first
        | contradiction
        | rfl
        | split_ifs <;> rfl

theorem letterEscape?_proper {blanks : Bool} {c : Char} {t : PatternTree}
    (hc : c ∉ ['x', 'u', 'U', 'p', 'P', 'b']) (h : letterEscape? blanks c = some t) : t.Proper := by
  obtain ⟨⟨t', rest⟩, hr, rfl⟩ := Option.map_eq_some_iff.mp h
  dsimp only [escape] at hr
  split at hr
  case h_24 =>
    split_ifs at hr
    cases hr
    exact trivial
  all_goals first
    | exact absurd hc (by decide)
    | cases hr; exact trivial

theorem escape_sound (hspent : Spent dead) (blanks : Bool) : Sound Proper (escape blanks) := by
  have hhex (digits : Nat) : Steady dead 0 Proper (hexEscape blanks digits) _ :=
    hexEscape_steady hspent blanks digits
  have hproperty (negated : Bool) : Steady dead 0 Proper (propertyEscape blanks negated) _ :=
    propertyEscape_steady hspent blanks negated
  rw [escape_eq]
  refine .next fun c => ?_
  split_ifs with hx hu hU hp hP hb
  · exact (hhex 2).sound
  · exact (hhex 4).sound
  · exact (hhex 8).sound
  · exact (hproperty false).sound
  · exact (hproperty true).sound
  · exact boundaryEscape_sound blanks
  · have hletter : c ∉ ['x', 'u', 'U', 'p', 'P', 'b'] := by simp [hx, hu, hU, hp, hP, hb]
    exact .given fun t ht => .result (letterEscape?_proper hletter ht)

/-- An escape is steady with what goes on after it, if that fails with the closing at a brace
with nothing after it and a word boundary before it. -/
theorem escape_bind {dead' : List Char → Prop} {α : Type} {p : α → Prop}
    {f g : PatternTree → Reader α} (hspent : Spent dead) (blanks : Bool)
    (hf : ∀ t, t.Proper → Steady dead' n p (f t) (g t))
    (hdead : ∀ t, t.Proper → ∀ cs a rest, dead cs → g t cs = some (a, rest) → dead' rest)
    (hbrace : ∀ cs, skip blanks cs = [] →
      g (.anchor .wordBoundary) ('\x7b' :: cs ++ closing) = none) :
    Steady dead' (n + 1) p (Reader.bind (escape blanks) f) (Reader.bind (escape blanks) g) := by
  rw [escape_eq, next_bind, next_bind]
  refine .next' (fun c => ?_) (hdead (.literal ⟨')', false⟩) trivial ['$'] · · hspent.dollar)
  split_ifs with hx hu hU hp hP hb
  · exact (hexEscape_steady hspent blanks 2).bind' hf hdead
  · exact (hexEscape_steady hspent blanks 4).bind' hf hdead
  · exact (hexEscape_steady hspent blanks 8).bind' hf hdead
  · exact (propertyEscape_steady hspent blanks false).bind' hf hdead
  · exact (propertyEscape_steady hspent blanks true).bind' hf hdead
  · exact boundaryEscape_bind hspent blanks hf hdead hbrace
  · have hletter : c ∉ ['x', 'u', 'U', 'p', 'P', 'b'] := by simp [hx, hu, hU, hp, hP, hb]
    have hresult : Steady dead n Proper (given (letterEscape? blanks c) result)
        (given (letterEscape? blanks c) result) :=
      .given fun t ht => .result (letterEscape?_proper hletter ht)
    exact hresult.bind' hf hdead

end Worksheet.PatternTree
