import Worksheet.Proofs.Formula.Loops

/- Worksheet Reading Progress — how far the readers come.

   Of each reader it is said that all it takes derives from its symbol, and that what it
   has taken when it refuses to go on is the beginning of what does (`Advances`): a number,
   where a value is expected next, and the parentheses that are still to be closed complete
   it (`Begun`). Together with this goes that the run is the same on every stream that looks
   alike up to that place. The readers are gone through from the innermost, and the
   induction is on the depth that is left (`advances_unary`); a text is read by reading a
   whole stream (`parse_eq`, `runs_whole`). -/
namespace Worksheet

/-! ## Beginnings -/

/-- The symbol derives the tokens. -/
def Symbol.Derived (s : Symbol) (ts : List Token) : Prop := ∃ e d, Derives s ts e d

/-- The tokens can be completed to what is described. Either a value is expected next, and
any number and some parentheses that close complete them; or they end an operand, and
such parentheses do. -/
def Begun (L : List Token → Prop) (ts : List Token) : Prop :=
  ∃ n, (∀ x, L (ts ++ .number x :: List.replicate n .parenClose)) ∨
    EndsOperand ts ∧ L (ts ++ List.replicate n .parenClose)

namespace Begun

variable {L M : List Token → Prop} {ts : List Token}

/-- Around what has begun stands what can be completed around it. -/
theorem wrap (front : List Token) (m : Nat)
    (hwrap : ∀ vs, L vs → M (front ++ (vs ++ List.replicate m .parenClose))) (h : Begun L ts) :
    Begun M (front ++ ts) := by
  obtain ⟨n, h⟩ := h
  refine ⟨n + m, h.imp (fun h x => ?_) fun ⟨hends, h⟩ => ⟨hends.append front, ?_⟩⟩
  · have hM := hwrap _ (h x)
    rw [List.append_assoc, List.cons_append, List.replicate_append_replicate] at hM
    rwa [List.append_assoc]
  · have hM := hwrap _ h
    rw [List.append_assoc, List.replicate_append_replicate] at hM
    rwa [List.append_assoc]

/-- In front of what has begun stands what can stand in front of what is complete. -/
theorem after (front : List Token) (hfront : ∀ vs, L vs → M (front ++ vs)) (h : Begun L ts) :
    Begun M (front ++ ts) := by
  refine h.wrap front 0 fun vs hvs => ?_
  rw [List.replicate_zero, List.append_nil]
  exact hfront vs hvs

theorem imp (h : Begun L ts) (himp : ∀ vs, L vs → M vs) : Begun M ts := h.after [] himp

/-- Where a value is expected. -/
theorem value (h : ∀ x, L [.number x]) : Begun L [] := ⟨0, .inl h⟩

/-- What needs nothing more. -/
theorem done (hends : EndsOperand ts) (h : L ts) : Begun L ts := by
  refine ⟨0, .inr ⟨hends, ?_⟩⟩
  rwa [List.replicate_zero, List.append_nil]

theorem derived {s : Symbol} (h : s.Derived ts) : Begun s.Derived ts := by
  obtain ⟨e, d, hderives⟩ := h
  exact .done hderives.ends ⟨e, d, hderives⟩

end Begun

/-- Every symbol derives a number. -/
theorem Symbol.derived_number (s : Symbol) (x : Float) : s.Derived [.number x] := by
  have hunary : Derives .unary [.number x] (.number x) 0 := Derives.number.unary_of_primary
  cases s with
  | expression => exact ⟨_, _, Derives.number.expression_of_primary⟩
  | chain level => exact ⟨_, _, hunary.chain_of_unary level⟩
  | unary => exact ⟨_, _, hunary⟩
  | postfixed => exact ⟨_, _, .plain .number⟩
  | primary => exact ⟨_, _, .number⟩

theorem Begun.start (s : Symbol) : Begun s.Derived [] := .value s.derived_number

namespace Formula

open Tokens (Begins)

/-- A run takes what is described, or it refuses to go on with the beginning of it. -/
def Completes (L : List Token → Prop) {α : Type} (ts : List Token) : Ending α → Prop
  | .read _ => L ts
  | .refused _ => Begun L ts
  | .tooDeep => True

theorem Completes.wrap {L M : List Token → Prop} {α : Type} {ts : List Token} {ending : Ending α}
    (front : List Token) (h : ∀ vs, L vs → M (front ++ vs)) (hts : Completes L ts ending) :
    Completes M (front ++ ts) ending := by
  cases ending with
  | read a => exact h ts hts
  | refused why => exact Begun.after front h hts
  | tooDeep => exact trivial

theorem Completes.imp {L M : List Token → Prop} {α : Type} {ts : List Token} {ending : Ending α}
    (h : ∀ vs, L vs → M vs) (hts : Completes L ts ending) : Completes M ts ending :=
  hts.wrap [] h

/-- All that a reader takes derives from a symbol or begins what does. -/
def Advances (s : Symbol) (reader : Reader Parsed) : Prop :=
  ∀ tokens, Runs reader tokens fun ts _ => Completes s.Derived ts

theorem Advances.refused {s : Symbol} : Advances s fun _ => .error .tooDeep :=
  fun _ => .here .tooDeep trivial fun _ _ => rfl

variable {α : Type} {L : List Token → Prop} {ts : List Token} {tokens : Tokens}

/-- What derives has been taken, and all that is left to see is whether a token comes
next. -/
theorem runs_done {s : Symbol} {front : List Token} (a : α) (h : s.Derived front) :
    Runs (fun tokens => ready tokens >>= fun rest => .ok (a, rest)) tokens fun ts _ =>
      Completes s.Derived (front ++ ts) := by
  refine .ready ?_ (.here (.read a) ?_ fun _ _ => rfl)
  · rw [List.append_nil]
    exact .derived h
  · rw [List.append_nil]
    exact h

theorem Advances.shortens {s : Symbol} {reader : Reader Parsed} (h : Advances s reader) :
    Shortens reader := fun tokens _ _ hread => (h tokens).length_le hread

/-! ## Chains -/

theorem opOf?_alike {level : Level} {t t' : Token} (h : t.Alike t') :
    opOf? level t = opOf? level t' := by
  cases h <;> cases level <;> rfl

theorem derived_link {op : BinaryOp} {us : List Token} (hts : (Symbol.chain op.level).Derived ts)
    (hus : op.level.operand.Derived us) :
    (Symbol.chain op.level).Derived (ts ++ op.token :: us) := by
  obtain ⟨l, d, hl⟩ := hts
  obtain ⟨r, d', hr⟩ := hus
  exact ⟨_, _, .link hl hr⟩

/-- After an operator an operand begins. -/
theorem begun_link {op : BinaryOp} {us : List Token} (hts : (Symbol.chain op.level).Derived ts)
    (hus : Begun op.level.operand.Derived us) :
    Begun (Symbol.chain op.level).Derived (ts ++ op.token :: us) := by
  have hbegun : Begun (Symbol.chain op.level).Derived (ts ++ [op.token] ++ us) := by
    refine hus.after _ fun vs hvs => ?_
    rw [List.append_assoc]
    exact derived_link hts hvs
  rwa [List.append_assoc] at hbegun

theorem runs_links {level : Level} {operand : Reader Parsed} (h : Advances level.operand operand)
    {front : List Token} (hfront : (Symbol.chain level).Derived front) (left : Parsed)
    (tokens : Tokens) :
    Runs (links operand (opOf? level) left) tokens fun ts _ =>
      Completes (Symbol.chain level).Derived (front ++ ts) := by
  -- each step takes an operator at least, and what has been taken goes into `front`
  induction hn : tokens.length using Nat.strong_induction_on generalizing front left tokens with
  | h n ih =>
    have hdone : (Symbol.chain level).Derived (front ++ []) := (List.append_nil front).symm ▸ hfront
    cases tokens with
    | finish position =>
      exact .here (.read left) hdone fun tokens' hsimilar => by cases hsimilar; rfl
    | fault cause position =>
      exact .here (.read left) hdone fun tokens' hsimilar => by cases hsimilar; rfl
    | next t position tail =>
      cases hop : opOf? level t with
      | none =>
        refine .here (.read left) hdone fun tokens' hsimilar => ?_
        cases hsimilar with
        | @next _ t' halike _ position' _ tail' =>
          show chainFrom operand (opOf? level) (tail'.length + 1) left _ = _
          rw [chainFrom, ← opOf?_alike halike, hop]
          rfl
      | some op =>
        obtain ⟨rfl, rfl⟩ := opOf?_eq_some hop
        refine .next (.ready (begun_link hfront (.start _)) (.bind (h tail) ?_ ?_ ?_))
          fun _ _ => links_next h.shortens hop left _ _
        · intro ts rest right hbegins hright
          have hlength := hbegins.length_eq
          rw [Tokens.length] at hn
          have hjoined : ∀ joined, Runs (links operand (opOf? op.level) joined) rest fun us _ =>
              Completes (Symbol.chain op.level).Derived (front ++ op.token :: (ts ++ us)) := by
            intro joined
            refine (ih rest.length (by omega) (derived_link hfront hright) joined rest rfl).mono ?_
            intro us _ ending hcompletes
            rwa [List.append_assoc, List.cons_append] at hcompletes
          show Runs (fun rest => binary op left right >>= fun joined =>
            links operand (opOf? op.level) joined rest) rest _
          exact .node (node_eq _ _) trivial hjoined
        · exact fun ts _ why hbegun => begun_link hfront hbegun
        · exact fun _ _ => trivial

theorem advances_chain {level : Level} {operand : Reader Parsed}
    (h : Advances level.operand operand) :
    Advances (.chain level) (chain operand (opOf? level)) := by
  have hderived : ∀ vs, level.operand.Derived vs → (Symbol.chain level).Derived vs := by
    rintro vs ⟨e, d, hderives⟩
    exact ⟨e, d, .operand hderives⟩
  intro tokens
  exact .bind (h tokens)
    (fun ts rest left _ hleft => runs_links h (hderived ts hleft) left rest)
    (fun _ _ _ hbegun => hbegun.imp hderived) fun _ _ => trivial

theorem advances_expression {unary : Reader Parsed} (h : Advances .unary unary) :
    Advances .expression (expression unary) := by
  have hpower : Advances (.chain .power) (chain unary powerOp?) := advances_chain h
  have hproduct : Advances (.chain .product) (chain (chain unary powerOp?) productOp?) :=
    advances_chain hpower
  have hsum : Advances (.chain .sum) (expression unary) := advances_chain hproduct
  have hderived : ∀ vs, (Symbol.chain .sum).Derived vs → Symbol.expression.Derived vs := by
    rintro vs ⟨e, d, hderives⟩
    exact ⟨e, d + 1, .expression hderives⟩
  intro tokens
  refine (hsum tokens).mono fun ts _ ending hcompletes => ?_
  exact hcompletes.imp hderived

/-! ## Arguments -/

/-- A run over arguments stops in front of the parenthesis that closes them. -/
def Awaits (L : List Token → Prop) {α : Type} (ts : List Token) (rest : Tokens) :
    Ending α → Prop
  | .read _ => (∃ position tail, rest = .next .parenClose position tail) ∧ L (ts ++ [.parenClose])
  | .refused _ => Begun L ts
  | .tooDeep => True

/-- Arguments, at least one, and the parenthesis that closes them. -/
def Closes (ts : List Token) : Prop :=
  ∃ args : List Argument, args ≠ [] ∧
    (∀ a ∈ args, Derives .expression a.tokens a.expr a.nesting) ∧
    ts = Argument.list args ++ [.parenClose]

theorem closes_last (h : Symbol.expression.Derived ts) : Closes (ts ++ [.parenClose]) := by
  obtain ⟨e, d, hderives⟩ := h
  refine ⟨[⟨ts, e, d⟩], List.cons_ne_nil _ _, List.forall_mem_singleton.mpr hderives, ?_⟩
  rw [Argument.list_singleton]

theorem closes_cons {us : List Token} (h : Symbol.expression.Derived ts) (hus : Closes us) :
    Closes (ts ++ .comma :: us) := by
  obtain ⟨e, d, hderives⟩ := h
  obtain ⟨args, hne, hargs, rfl⟩ := hus
  obtain ⟨a, args, rfl⟩ := List.exists_cons_of_ne_nil hne
  refine ⟨⟨ts, e, d⟩ :: a :: args, List.cons_ne_nil _ _,
    List.forall_mem_cons.mpr ⟨hderives, hargs⟩, ?_⟩
  rw [Argument.list_cons_cons, List.append_assoc, List.cons_append]

/-- What begins an argument begins the arguments. -/
theorem begun_argument (h : Begun Symbol.expression.Derived ts) : Begun Closes ts :=
  h.wrap [] 1 fun _ => closes_last

/-- After a comma other arguments begin. -/
theorem begun_arguments {us : List Token} (h : Symbol.expression.Derived ts)
    (hus : Begun Closes us) : Begun Closes (ts ++ .comma :: us) := by
  have hbegun : Begun Closes (ts ++ [.comma] ++ us) := by
    refine hus.after _ fun vs hvs => ?_
    rw [List.append_assoc]
    exact closes_cons h hvs
  rwa [List.append_assoc] at hbegun

/-- An argument and what comes after it, if the arguments after a comma are read as they
should be. -/
theorem runs_argument {nested : Reader Parsed} (h : Advances .expression nested) (name : String)
    (ih : ∀ tail : Tokens, tail.length < tokens.length →
      Runs (argumentsAll nested name) tail fun ts rest => Awaits Closes ts rest) :
    Runs (fun tokens => nested tokens >>= fun r => afterArgument nested name r.1 r.2) tokens
      fun ts rest => Awaits Closes ts rest := by
  refine .bind (h tokens) (fun ts rest arg hbegins hts => ?_)
    (fun ts _ _ hbegun => begun_argument hbegun) fun _ _ => trivial
  have hend : Begun Closes (ts ++ []) := begun_argument
    ((List.append_nil ts).symm ▸ Begun.derived hts)
  have hlength := hbegins.length_eq
  cases rest with
  | finish position =>
    exact .here (.refused (.afterArgument name)) hend fun _ hsimilar => by cases hsimilar; rfl
  | fault cause position =>
    exact .here (.refused (.afterArgument name)) hend fun _ hsimilar => by cases hsimilar; rfl
  | next t position tail =>
    cases t with
    | comma =>
      rw [Tokens.length] at hlength
      have hothers : Runs (fun tail => ready tail >>= fun tail =>
          argumentsAll nested name tail >>= fun r => .ok (arg :: r.1, r.2)) tail
          fun us rest => Awaits Closes (ts ++ .comma :: us) rest := by
        refine .ready (begun_arguments hts (begun_argument (.start .expression))) (.bind
          (ih tail (by omega)) (fun us rest args _ hus => ?_)
          (fun us _ _ hbegun => begun_arguments hts hbegun) fun _ _ => trivial)
        refine .here (.read (arg :: args)) ⟨hus.1, ?_⟩ fun _ _ => rfl
        rw [List.append_nil, List.append_assoc, List.cons_append]
        exact closes_cons hts hus.2
      exact .next hothers fun _ _ => rfl
    | parenClose =>
      refine .here (.read [arg]) ⟨⟨position, tail, rfl⟩, ?_⟩ fun _ hsimilar => ?_
      · rw [List.append_nil]
        exact closes_last hts
      · cases hsimilar with
        | next halike =>
          cases halike
          rfl
    | _ =>
      refine .here (.refused (.afterArgument name)) hend fun _ hsimilar => ?_
      cases hsimilar with
      | next halike => cases halike <;> rfl

theorem runs_argumentsAll {nested : Reader Parsed} (h : Advances .expression nested)
    (name : String) (tokens : Tokens) :
    Runs (argumentsAll nested name) tokens fun ts rest => Awaits Closes ts rest := by
  have hstart : Begun Closes [] := begun_argument (.start .expression)
  -- with each step an argument and a comma are taken
  induction hn : tokens.length using Nat.strong_induction_on generalizing tokens with
  | h n ih =>
    have hargument := runs_argument h name fun tail hlt => ih tail.length (hn ▸ hlt) tail rfl
    cases tokens with
    | next t position tail =>
      cases t with
      | comma =>
        refine .here (.refused (.unexpected .argumentExpected)) hstart fun _ hsimilar => ?_
        cases hsimilar with
        | next halike =>
          cases halike
          rfl
      | parenClose =>
        refine .here (.refused (.unexpected .argumentExpected)) hstart fun _ hsimilar => ?_
        cases hsimilar with
        | next halike =>
          cases halike
          rfl
      | _ =>
        refine hargument.congr fun _ hsimilar => ?_
        cases hsimilar with
        | next halike =>
          cases halike <;>
            exact argumentsAll_eq h.shortens name _ (fun _ _ heq => by cases heq)
              fun _ _ heq => by cases heq
    | _ =>
      refine hargument.congr fun _ hsimilar => ?_
      cases hsimilar
      exact argumentsAll_eq h.shortens name _ (fun _ _ heq => by cases heq)
        fun _ _ heq => by cases heq

/-! ## Calls -/

/-- What completes a call of the function. -/
def Calls (name : String) (ts : List Token) : Prop :=
  Symbol.primary.Derived (.word name :: .parenOpen :: ts)

theorem calls_of_closes {name : String} (h : Closes ts) : Calls name ts := by
  obtain ⟨args, -, hargs, rfl⟩ := h
  exact ⟨_, _, .call hargs⟩

theorem runs_arguments {nested : Reader Parsed} (h : Advances .expression nested) (name : String)
    (tokens : Tokens) :
    Runs (arguments nested name) tokens fun ts rest => Awaits (Calls name) ts rest := by
  have hsome : Runs (argumentsAll nested name) tokens fun ts rest => Awaits (Calls name) ts rest := by
    refine (runs_argumentsAll h name tokens).mono fun ts rest ending hawaits => ?_
    cases ending with
    | read args => exact ⟨hawaits.1, calls_of_closes hawaits.2⟩
    | refused why => exact Begun.imp hawaits fun _ => calls_of_closes
    | tooDeep => exact trivial
  cases tokens with
  | next t position tail =>
    cases t with
    | parenClose =>
      refine .here (.read []) ⟨⟨position, tail, rfl⟩, ?_⟩ fun _ hsimilar => ?_
      · exact ⟨_, _, .call (List.forall_mem_nil _)⟩
      · cases hsimilar with
        | next halike =>
          cases halike
          rfl
    | _ =>
      refine hsome.congr fun _ hsimilar => ?_
      cases hsimilar with
      | next halike => cases halike <;> rfl
  | _ =>
    refine hsome.congr fun _ hsimilar => ?_
    cases hsimilar
    rfl

theorem runs_call {nested : Reader Parsed} (h : Advances .expression nested) (name : String)
    (tokens : Tokens) :
    Runs (call nested name) tokens fun ts _ => Completes (Calls name) ts := by
  refine .bind (runs_arguments h name tokens) (fun ts rest args _ hts => ?_)
    (fun _ _ _ hbegun => hbegun) fun _ _ => trivial
  obtain ⟨⟨position, tail, rfl⟩, hcalls⟩ := hts
  refine .next (.ready ?_ (.node (node_eq _ _) trivial fun p => ?_)) fun _ _ => rfl
  · exact .done ((EndsOperand.single rfl).append ts) hcalls
  · exact .here (.read p) hcalls fun _ _ => rfl

/-! ## Primaries, percentages and signs -/

theorem derived_group (h : Symbol.expression.Derived ts) :
    Symbol.primary.Derived (.parenOpen :: (ts ++ [.parenClose])) := by
  obtain ⟨e, d, hderives⟩ := h
  exact ⟨e, d, .group hderives⟩

theorem begun_group (h : Begun Symbol.expression.Derived ts) :
    Begun Symbol.primary.Derived (.parenOpen :: ts) :=
  h.wrap [.parenOpen] 1 fun _ => derived_group

/-- After the parenthesis that opens a group. -/
theorem runs_group {nested : Reader Parsed} (h : Advances .expression nested)
    (position : Nat) (tail : Tokens) :
    Runs (primary nested) (.next .parenOpen position tail) fun ts _ =>
      Completes Symbol.primary.Derived ts := by
  refine .next (.ready (begun_group (.start .expression)) (.bind (h tail)
    (fun ts rest inner _ hts => ?_) (fun _ _ _ hbegun => begun_group hbegun)
    fun _ _ => trivial)) fun _ _ => rfl
  have hend : Begun Symbol.primary.Derived (.parenOpen :: (ts ++ [])) :=
    begun_group ((List.append_nil ts).symm ▸ Begun.derived hts)
  cases rest with
  | next t position tail =>
    cases t with
    | parenClose =>
      refine .next ((runs_done inner (derived_group hts)).mono fun us _ ending hcompletes => ?_)
        fun _ _ => rfl
      rwa [List.cons_append, List.append_assoc] at hcompletes
    | _ =>
      refine .here (.refused (.unexpected .closeExpected)) hend fun _ hsimilar => ?_
      cases hsimilar with
      | next halike => cases halike <;> rfl
  | _ =>
    refine .here (.refused (.unexpected .closeExpected)) hend fun _ hsimilar => ?_
    cases hsimilar
    rfl

/-- After a word: it is called if a parenthesis opens. -/
theorem runs_word {nested : Reader Parsed} (h : Advances .expression nested) (name : String)
    (position : Nat) (tail : Tokens) :
    Runs (primary nested) (.next (.word name) position tail) fun ts _ =>
      Completes Symbol.primary.Derived ts := by
  have hname : Symbol.primary.Derived [.word name] := ⟨_, _, (derives_wordExpr name).1⟩
  have hcall : Begun Symbol.primary.Derived [.word name, .parenOpen] :=
    (begun_argument (.start .expression)).after [.word name, .parenOpen] fun _ => calls_of_closes
  refine .next (.ready (.derived hname) ?_) fun _ _ => rfl
  cases tail with
  | next t position tail =>
    cases t with
    | parenOpen =>
      refine .next (.ready hcall ((runs_call h name tail).mono fun us _ _ hcalls => ?_)) fun _ _ => rfl
      exact hcalls.wrap [.word name, .parenOpen] fun _ hvs => hvs
    | _ =>
      refine .here (.read (leaf (wordExpr name))) hname fun _ hsimilar => ?_
      cases hsimilar with
      | next halike => cases halike <;> rfl
  | _ =>
    refine .here (.read (leaf (wordExpr name))) hname fun _ hsimilar => ?_
    cases hsimilar
    rfl

theorem advances_primary {nested : Reader Parsed} (h : Advances .expression nested) :
    Advances .primary (primary nested) := by
  intro tokens
  have hstart : Begun Symbol.primary.Derived [] := .start .primary
  cases tokens with
  | next t position tail =>
    cases t with
    | number x => exact .next (runs_done (leaf (.number x)) ⟨_, _, .number⟩) fun _ _ => rfl
    | text s => exact .next (runs_done (leaf (.text s)) ⟨_, _, .text⟩) fun _ _ => rfl
    | parenOpen => exact runs_group h position tail
    | word name => exact runs_word h name position tail
    | _ =>
      refine .here (.refused (.unexpected .valueExpected)) hstart fun _ hsimilar => ?_
      cases hsimilar with
      | next halike => cases halike <;> rfl
  | _ =>
    refine .here (.refused (.unexpected .valueExpected)) hstart fun _ hsimilar => ?_
    cases hsimilar
    rfl

theorem advances_postfixed {nested : Reader Parsed} (h : Advances .expression nested) :
    Advances .postfixed (postfixed nested) := by
  have hderived : ∀ vs, Symbol.primary.Derived vs → Symbol.postfixed.Derived vs := by
    rintro vs ⟨e, d, hderives⟩
    exact ⟨e, d, .plain hderives⟩
  have hpercent : ∀ vs, Symbol.primary.Derived vs → Symbol.postfixed.Derived (vs ++ [.percent]) := by
    rintro vs ⟨e, d, hderives⟩
    exact ⟨_, d, .percent hderives⟩
  intro tokens
  refine .bind (advances_primary h tokens) (fun ts rest operand _ hts => ?_)
    (fun _ _ _ hbegun => hbegun.imp hderived) fun _ _ => trivial
  have hplain : Symbol.postfixed.Derived (ts ++ []) := (List.append_nil ts).symm ▸ hderived ts hts
  cases rest with
  | next t position tail =>
    cases t with
    | percent =>
      refine .next (.ready (.derived (hpercent ts hts)) (.node (node_eq _ _) trivial fun p =>
        .here (.read p) (hpercent ts hts) fun _ _ => rfl)) fun _ _ => rfl
    | _ =>
      refine .here (.read operand) hplain fun _ hsimilar => ?_
      cases hsimilar with
      | next halike => cases halike <;> rfl
  | _ =>
    refine .here (.read operand) hplain fun _ hsimilar => ?_
    cases hsimilar
    rfl

theorem sign?_alike {t t' : Token} (h : t.Alike t') : sign? t = sign? t' := by cases h <;> rfl

theorem advances_unaryWith {signed nested : Reader Parsed} (hsigned : Advances .unary signed)
    (hnested : Advances .expression nested) : Advances .unary (unaryWith signed nested) := by
  have hplain : ∀ tokens, Runs (postfixed nested) tokens fun ts _ =>
      Completes Symbol.unary.Derived ts := by
    intro tokens
    refine (advances_postfixed hnested tokens).mono fun ts _ ending hcompletes => ?_
    refine hcompletes.imp ?_
    rintro vs ⟨e, d, hderives⟩
    exact ⟨e, d, .unsigned hderives⟩
  intro tokens
  cases tokens with
  | next t position tail =>
    cases hop : sign? t with
    | none =>
      refine (hplain _).congr fun _ hsimilar => ?_
      cases hsimilar with
      | next halike =>
        rw [unaryWith]
        dsimp only
        rw [← sign?_alike halike, hop]
    | some op =>
      obtain rfl := sign?_eq_some hop
      have hsign : ∀ vs, Symbol.unary.Derived vs → Symbol.unary.Derived ([op.token] ++ vs) := by
        rintro vs ⟨e, d, hderives⟩
        exact ⟨_, _, .sign hderives⟩
      have hoperand : Runs (fun tail => ready tail >>= fun tail => signed tail >>= fun r =>
          node (.unary op r.1.expr) (r.1.height + 1) >>= fun p => .ok (p, r.2)) tail fun ts _ =>
          Completes Symbol.unary.Derived (op.token :: ts) := by
        refine .ready ((Begun.start .unary).after [op.token] hsign) (.bind (hsigned tail)
          (fun ts rest operand _ hts => ?_)
          (fun _ _ _ hbegun => hbegun.wrap [op.token] hsign) fun _ _ => trivial)
        show Runs (fun rest => node (.unary op operand.expr) (operand.height + 1) >>= fun p =>
          .ok (p, rest)) rest _
        refine .node (node_eq _ _) trivial fun p => .here (.read p) ?_ fun _ _ => rfl
        show Symbol.unary.Derived (op.token :: (ts ++ []))
        rw [List.append_nil]
        exact hsign ts hts
      refine .next hoperand fun _ _ => ?_
      rw [unaryWith]
      dsimp only
      rw [hop]
  | _ =>
    refine (hplain _).congr fun _ hsimilar => ?_
    cases hsimilar
    rfl

theorem advances_unary (depth : Nat) : Advances .unary (unary depth) := by
  induction depth with
  | zero => exact advances_unaryWith .refused .refused
  | succ depth ih => exact advances_unaryWith ih (advances_expression ih)

/-! ## Whole streams -/

/-- Reads an expression that has to be all there is. -/
def whole : Reader Expr := fun tokens => do
  let (p, rest) ← expression (unary (depthLimit - 1)) (← ready tokens)
  match rest with
  | .finish _ => .ok (p.expr, rest)
  | _ => .error (unexpected .afterExpression rest)

/-- A text is read by reading its stream, unless that is empty. -/
theorem parse_eq (text : String) :
    parse text = match Tokens.scan (body text.toList).1 0 (body text.toList).2 with
      | .finish _ => .error (.malformed .empty (body text.toList).1)
      | tokens => (whole tokens).map Prod.fst := by
  unfold parse whole
  dsimp only
  generalize Tokens.scan (body text.toList).1 0 (body text.toList).2 = tokens
  cases tokens with
  | finish position => rfl
  | fault cause position => rfl
  | next t position tail =>
    simp only [ready, ok_bind]
    cases expression (unary (depthLimit - 1)) (.next t position tail) with
    | error e => rfl
    | ok r =>
      obtain ⟨p, rest⟩ := r
      cases rest <;> rfl

/-- A whole stream is read up to its end, or what has been taken in front of the token
that is refused is the beginning of an expression. -/
theorem runs_whole (tokens : Tokens) :
    Runs whole tokens fun ts _ => Completes Symbol.expression.Derived ts := by
  refine .ready (.start .expression) (.bind (advances_expression (advances_unary _) tokens)
    (fun ts rest p _ hts => ?_) (fun _ _ _ hbegun => hbegun) fun _ _ => trivial)
  have hts : Symbol.expression.Derived (ts ++ []) := (List.append_nil ts).symm ▸ hts
  cases rest with
  | finish position => exact .here (.read p.expr) hts fun _ hsimilar => by cases hsimilar; rfl
  | _ =>
    refine .here (.refused (.unexpected .afterExpression)) (.derived hts) fun _ hsimilar => ?_
    cases hsimilar
    rfl

end Formula

end Worksheet
