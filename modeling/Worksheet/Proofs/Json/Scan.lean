import Worksheet.Json.Writer
import Worksheet.Proofs.Json.Number

/- Worksheet JSON Scanning — the text of a tree is split into its tokens again.

   Both ways of writing a tree spell out the tokens of one tree (`spellsAll_tokens`,
   `spellsAll_lines`), which is the tree itself but for the numbers that interchange
   text has no room for (`Json.shown`). -/
namespace Worksheet

open Token

namespace Json

mutual
/-- The tree that the text of a tree spells out: numbers that are not finite become
nothing, and integers of more than 64 bits become other numbers. -/
def shown (reading : NumeralReading) : Json → Json
  | integer n => JsonToken.ofInteger reading n
  | decimal x => if x.isFinite then JsonToken.reread reading x else null
  | array items => array (shownAll reading items)
  | object members => object (shownMembers reading members)
  | unreadable => null
  | j => j

def shownAll (reading : NumeralReading) : List Json → List Json
  | [] => []
  | j :: js => j.shown reading :: shownAll reading js

def shownMembers (reading : NumeralReading) : List (String × Json) → List (String × Json)
  | [] => []
  | (name, j) :: ms => (name, j.shown reading) :: shownMembers reading ms
end

end Json

namespace JsonToken

variable {reading : NumeralReading} {c : Char} {cs ds rest : List Char} {t : JsonToken}
  {ts us : List JsonToken}

/-! ## Strings -/

theorem hexDigit?_hexChar : ∀ n < 16, hexDigit? (hexChar n) = some n := by decide

theorem hexCode?_hexChar {n : Nat} (h : n < 32) :
    hexCode? '0' '0' (hexChar (n / 16)) (hexChar (n % 16)) = some n := by
  have hzero : hexDigit? '0' = some 0 := rfl
  rw [hexCode?, hzero, hexDigit?_hexChar _ (by omega), hexDigit?_hexChar _ (by omega)]
  exact congrArg some (by omega)

/-- A character that needs no escape. -/
theorem scanPieces_plain (hquote : c ≠ '"') (hslash : c ≠ '\\') (hlow : ¬ c.toNat < 32) :
    scanPieces (c :: cs) = (scanPieces cs).map fun (ps, n) => (.char c :: ps, n + 1) := by
  rw [scanPieces, if_neg hquote, if_neg (by simp [hslash, hlow])]
  · cases scanPieces cs <;> rfl
  · rintro _ _ _ _ _ rfl
    exact absurd rfl hslash
  · rintro _ _ rfl
    exact absurd rfl hslash

/-- A character that is written as a letter after a backslash. -/
theorem scanPieces_short {e : Char} (he : escape? e = some c) (cs : List Char) :
    scanPieces ('\\' :: e :: cs) = (scanPieces cs).map fun (ps, n) => (.char c :: ps, n + 2) := by
  rw [scanPieces, he]
  · cases scanPieces cs <;> rfl
  · rintro _ _ _ _ _ rfl
    exact nomatch he

/-- A character that is written by its number. -/
theorem scanPieces_low (h : c.toNat < 32) (cs : List Char) :
    scanPieces ('\\' :: 'u' :: '0' :: '0' :: hexChar (c.toNat / 16) :: hexChar (c.toNat % 16) ::
      cs) = (scanPieces cs).map fun (ps, n) => (.code c.toNat :: ps, n + 6) := by
  rw [scanPieces, hexCode?_hexChar h]
  cases scanPieces cs <;> rfl

theorem join?_code (h : c.toNat < 32) (ps : List Piece) :
    join? (.code c.toNat :: ps) = (join? ps).map (c :: ·) := by
  have hhigh : isHighSurrogate c.toNat = false := by simp [isHighSurrogate]; omega
  have hlow : isLowSurrogate c.toNat = false := by simp [isLowSurrogate]; omega
  conv_lhs => unfold join?
  simp only [hhigh, hlow, Bool.false_eq_true, if_false, Char.ofNat_toNat]

/-- A character as it is written is read as one piece, which gives it back. -/
theorem scanPieces_escapeChar (c : Char) :
    ∃ p, (∀ ps, join? (p :: ps) = (join? ps).map (c :: ·)) ∧
      ∀ cs, scanPieces (escapeChar c ++ cs) =
        (scanPieces cs).map fun (ps, n) => (p :: ps, n + (escapeChar c).length) := by
  rw [escapeChar]
  -- Seven characters have a letter of their own; the last two cases are those without.
  repeat' split
  case isFalse.isFalse.isFalse.isFalse.isFalse.isFalse.isFalse.isTrue h =>
    exact ⟨.code c.toNat, join?_code h, scanPieces_low h⟩
  case isFalse.isFalse.isFalse.isFalse.isFalse.isFalse.isFalse.isFalse
      hquote hslash _ _ _ _ _ hlow =>
    exact ⟨.char c, fun _ => rfl, fun _ => scanPieces_plain hquote hslash hlow⟩
  all_goals
    subst c
    exact ⟨.char _, fun _ => rfl, scanPieces_short rfl⟩

/-- The text of a string is read as pieces that give it back. -/
theorem scanPieces_escaped (cs rest : List Char) :
    ∃ ps, join? ps = some cs ∧ scanPieces (cs.flatMap escapeChar ++ '"' :: rest) =
      some (ps, (cs.flatMap escapeChar).length + 1) := by
  induction cs with
  | nil => exact ⟨[], rfl, rfl⟩
  | cons c cs ih =>
    obtain ⟨ps, hjoin, hscan⟩ := ih
    obtain ⟨p, hp, hescape⟩ := scanPieces_escapeChar c
    refine ⟨p :: ps, by rw [hp, hjoin]; rfl, ?_⟩
    rw [List.flatMap_cons, List.append_assoc, hescape, hscan, List.length_append]
    exact congrArg some (Prod.ext rfl (by simp only; omega))

theorem spells_string (s : String) : Spells reading (writeString s) (.string (some s)) := by
  refine ⟨'"', _, rfl, rfl, fun rest _ => ?_⟩
  obtain ⟨ps, hjoin, hscan⟩ := scanPieces_escaped s.toList rest
  change (scanPieces (s.toList.flatMap escapeChar ++ ['"'] ++ rest)).map _ = _
  rw [List.append_assoc, List.singleton_append, hscan]
  simp only [Option.map_some, hjoin, String.ofList_toList, writeString, List.length_append,
    List.length_cons, List.length_nil]

/-! ## Scalars -/

theorem spells_scalar {j : Json} (h : j.tokens = [.scalar j]) :
    Spells reading (writeScalar j) (.scalar (j.shown reading)) := by
  have hnull : Spells reading "null".toList (.scalar .null) := ⟨'n', _, rfl, rfl, fun _ _ => rfl⟩
  cases j with
  | null => exact hnull
  | unreadable => exact hnull
  | bool b => cases b <;> exact ⟨_, _, rfl, rfl, fun _ _ => rfl⟩
  | integer n => exact spells_integer n
  | decimal x =>
    rw [writeScalar, Json.shown]
    split
    · exact spells_decimal ‹_›
    · exact hnull
  | text s => exact nomatch h
  | array items => exact nomatch h
  | object members => exact nomatch h

/-! ## Token by token -/

theorem scanAll_append (cs rest : List Char) :
    scanAll reading cs.length (cs ++ rest) = scanAll reading 0 rest := by
  induction cs with
  | nil => rfl
  | cons c cs ih => exact ih

theorem Spells.scanAll (h : Spells reading cs t) (hrest : EndsNumber rest) :
    scanAll reading 0 (cs ++ rest) = (scanAll reading 0 rest).map (t :: ·) := by
  obtain ⟨c, cs, rfl, hc, hscan⟩ := h
  rw [List.cons_append, JsonToken.scanAll, if_neg (by simp [hc]), hscan rest hrest]
  simp only [List.length_cons, Nat.add_sub_cancel, scanAll_append]

theorem scanAll_separators (h : ∀ c ∈ cs, isSeparator c = true) :
    scanAll reading 0 (cs ++ rest) = scanAll reading 0 rest := by
  induction cs with
  | nil => rfl
  | cons c cs ih =>
    rw [List.cons_append, scanAll, if_pos (h c List.mem_cons_self)]
    exact ih fun d hd => h d (List.mem_cons_of_mem c hd)

/-- A text is read as tokens, wherever a number may end. -/
def SpellsAll (reading : NumeralReading) (cs : List Char) (ts : List JsonToken) : Prop :=
  ∀ rest, EndsNumber rest →
    scanAll reading 0 (cs ++ rest) = (scanAll reading 0 rest).map (ts ++ ·)

/-- A text starts in a way that ends a number before it. -/
def Separates (cs : List Char) : Prop := ∀ rest, EndsNumber (cs ++ rest)

theorem separates_cons (h : isDigit c = false ∧ c ≠ '.' ∧ c ≠ 'e' ∧ c ≠ 'E') (cs : List Char) :
    Separates (c :: cs) := by
  rintro rest _ ⟨⟩
  exact h

theorem SpellsAll.nil : SpellsAll reading [] [] := fun _ _ => by simp

theorem Spells.all (h : Spells reading cs t) : SpellsAll reading cs [t] := fun _ hrest => h.scanAll hrest

theorem SpellsAll.append (h : SpellsAll reading cs ts) (h' : SpellsAll reading ds us)
    (hds : Separates ds) : SpellsAll reading (cs ++ ds) (ts ++ us) := by
  intro rest hrest
  rw [List.append_assoc, h _ (hds rest), h' rest hrest, Option.map_map]
  congr 1
  funext ts'
  exact (List.append_assoc ts us ts').symm

/-- A bracket, a comma or a colon, which ends no matter what follows. -/
theorem SpellsAll.mark (h : SpellsAll reading cs ts) (hc : isSeparator c = false)
    (hscan : ∀ rest, scan reading c rest = some (t, 1)) :
    SpellsAll reading (c :: cs) (t :: ts) := by
  intro rest hrest
  rw [List.cons_append, scanAll, if_neg (by simp [hc]), hscan]
  simp only [Nat.sub_self, h rest hrest, Option.map_map]
  rfl

theorem SpellsAll.space (h : SpellsAll reading ds ts) (hcs : ∀ c ∈ cs, isSeparator c = true) :
    SpellsAll reading (cs ++ ds) ts := by
  intro rest hrest
  rw [List.append_assoc, scanAll_separators hcs, h rest hrest]

/-! ## Trees -/

theorem tokens_ofMagnitude (negative : Bool) (o : Option Float) :
    (ofMagnitude negative o).tokens = [.scalar (ofMagnitude negative o)] := by
  rcases ofMagnitude_cases negative o with h | ⟨x, -, h⟩ <;> rw [h] <;> rfl

theorem tokens_reread {x : Float} (hx : x.isFinite = true) :
    (reread reading x).tokens = [.scalar (reread reading x)] := by
  rcases reread_cases reading hx with h | ⟨y, -, h⟩ <;> rw [h] <;> rfl

theorem tokens_shown {j : Json} (h : j.tokens = [.scalar j]) :
    (j.shown reading).tokens = [.scalar (j.shown reading)] := by
  cases j with
  | integer n =>
    rw [Json.shown, ofInteger]
    split
    · rfl
    · exact tokens_ofMagnitude _ _
  | decimal x =>
    rw [Json.shown]
    split
    · exact tokens_reread ‹_›
    · rfl
  | text s => exact nomatch h
  | array items => exact nomatch h
  | object members => exact nomatch h
  | _ => rfl

theorem spellsAll_scalar {j : Json} (h : j.tokens = [.scalar j]) :
    SpellsAll reading (writeScalar j) (j.shown reading).tokens :=
  tokens_shown h ▸ (spells_scalar h).all

theorem SpellsAll.commaBefore (h : SpellsAll reading cs ts) (h' : SpellsAll reading ds us) :
    SpellsAll reading (cs ++ ',' :: ds) (ts ++ .comma :: us) :=
  h.append (h'.mark rfl fun _ => rfl) (separates_cons (by decide) ds)

theorem SpellsAll.name (name : String) (h : SpellsAll reading cs ts) :
    SpellsAll reading (writeString name ++ ':' :: cs) (.string (some name) :: .colon :: ts) :=
  (spells_string name).all.append (h.mark rfl fun _ => rfl) (separates_cons (by decide) cs)

mutual
/-- The tokens of a tree without any space between them. -/
theorem spellsAll_tokens :
    ∀ j : Json, SpellsAll reading (j.tokens.flatMap write) (j.shown reading).tokens
  | .text s => by
    simpa [Json.tokens, Json.shown, write] using (spells_string s).all
  | .array items => by
    have hclose : SpellsAll reading [']'] [.arrayClose] := SpellsAll.nil.mark rfl fun _ => rfl
    have h := (spellsAll_itemTokens items).append hclose (separates_cons (by decide) [])
    simpa [Json.tokens, Json.shown, write] using h.mark rfl fun _ => rfl
  | .object members => by
    have hclose : SpellsAll reading ['\x7d'] [.objectClose] := SpellsAll.nil.mark rfl fun _ => rfl
    have h := (spellsAll_memberTokens members).append hclose (separates_cons (by decide) [])
    simpa [Json.tokens, Json.shown, write] using h.mark rfl fun _ => rfl
  | .null => by simpa [Json.tokens, write] using spellsAll_scalar (j := .null) rfl
  | .bool b => by simpa [Json.tokens, write] using spellsAll_scalar (j := .bool b) rfl
  | .integer n => by simpa [Json.tokens, write] using spellsAll_scalar (j := .integer n) rfl
  | .decimal x => by simpa [Json.tokens, write] using spellsAll_scalar (j := .decimal x) rfl
  | .unreadable => by simpa [Json.tokens, write] using spellsAll_scalar (j := .unreadable) rfl

theorem spellsAll_itemTokens :
    ∀ js : List Json, SpellsAll reading ((Json.itemTokens js).flatMap write)
      (Json.itemTokens (Json.shownAll reading js))
  | [] => .nil
  | [j] => spellsAll_tokens j
  | j :: k :: js => by
    have h := (spellsAll_tokens j).commaBefore (spellsAll_itemTokens (k :: js))
    simpa [Json.itemTokens, Json.shownAll, write] using h

theorem spellsAll_memberTokens :
    ∀ ms : List (String × Json), SpellsAll reading ((Json.memberTokens ms).flatMap write)
      (Json.memberTokens (Json.shownMembers reading ms))
  | [] => .nil
  | [(name, j)] => by
    simpa [Json.memberTokens, Json.shownMembers, write] using (spellsAll_tokens j).name name
  | (name, j) :: m :: ms => by
    have h := ((spellsAll_tokens j).commaBefore (spellsAll_memberTokens (m :: ms))).name name
    simpa [Json.memberTokens, Json.shownMembers, write] using h
end

theorem newLine_separators (depth : Nat) : ∀ c ∈ Json.newLine depth, isSeparator c = true := by
  intro c hc
  rcases List.mem_cons.mp hc with rfl | hc
  · rfl
  · rw [List.eq_of_mem_replicate hc]
    rfl

theorem SpellsAll.blank (h : SpellsAll reading cs ts) : SpellsAll reading (' ' :: cs) ts := by
  have hblank : ∀ c ∈ [' '], isSeparator c = true := List.forall_mem_singleton.mpr rfl
  exact h.space hblank

/-- The bracket that closes a container stands on a line of its own. -/
theorem SpellsAll.close (h : SpellsAll reading cs ts) (depth : Nat)
    (hc : isSeparator c = false) (hscan : ∀ rest, scan reading c rest = some (t, 1)) :
    SpellsAll reading (cs ++ Json.newLine depth ++ [c]) (ts ++ [t]) := by
  rw [List.append_assoc]
  exact h.append ((SpellsAll.nil.mark hc hscan).space (newLine_separators depth))
    (separates_cons (by decide) _)

mutual
/-- The tokens of a tree over several lines. -/
theorem spellsAll_lines (depth : Nat) :
    ∀ j : Json, SpellsAll reading (j.lines depth) (j.shown reading).tokens
  | .text s => by
    simpa [Json.lines, Json.tokens, Json.shown] using (spells_string s).all
  | .array [] => SpellsAll.mark (SpellsAll.nil.mark rfl fun _ => rfl) rfl fun _ => rfl
  | .object [] => SpellsAll.mark (SpellsAll.nil.mark rfl fun _ => rfl) rfl fun _ => rfl
  | .array (j :: js) => by
    have h : SpellsAll reading _ (_ ++ [.arrayClose]) :=
      (spellsAll_itemLines (depth + 1) (j :: js)).close depth (c := ']') rfl fun _ => rfl
    simpa [Json.lines, Json.tokens, Json.shown] using h.mark (c := '[') rfl fun _ => rfl
  | .object (m :: ms) => by
    have h : SpellsAll reading _ (_ ++ [.objectClose]) :=
      (spellsAll_memberLines (depth + 1) (m :: ms)).close depth (c := '\x7d') rfl fun _ => rfl
    simpa [Json.lines, Json.tokens, Json.shown] using h.mark (c := '\x7b') rfl fun _ => rfl
  | .null => spellsAll_scalar (j := .null) rfl
  | .bool b => spellsAll_scalar (j := .bool b) rfl
  | .integer n => spellsAll_scalar (j := .integer n) rfl
  | .decimal x => spellsAll_scalar (j := .decimal x) rfl
  | .unreadable => spellsAll_scalar (j := .unreadable) rfl

theorem spellsAll_itemLines (depth : Nat) :
    ∀ js : List Json,
      SpellsAll reading (Json.itemLines depth js) (Json.itemTokens (Json.shownAll reading js))
  | [] => .nil
  | [j] => (spellsAll_lines depth j).space (newLine_separators depth)
  | j :: k :: js => by
    have h := (spellsAll_lines depth j).commaBefore (spellsAll_itemLines depth (k :: js))
    simpa [Json.itemLines, Json.itemTokens, Json.shownAll] using
      h.space (newLine_separators depth)

theorem spellsAll_memberLines (depth : Nat) :
    ∀ ms : List (String × Json), SpellsAll reading (Json.memberLines depth ms)
      (Json.memberTokens (Json.shownMembers reading ms))
  | [] => .nil
  | [(name, j)] => by
    have h := (spellsAll_lines depth j).blank.name name
    simpa [Json.memberLines, Json.memberTokens, Json.shownMembers] using
      h.space (newLine_separators depth)
  | (name, j) :: m :: ms => by
    have h := (spellsAll_lines depth j).commaBefore (spellsAll_memberLines depth (m :: ms))
    simpa [Json.memberLines, Json.memberTokens, Json.shownMembers] using
      (h.blank.name name).space (newLine_separators depth)
end

theorem SpellsAll.scanAll (h : SpellsAll reading cs ts) :
    JsonToken.scanAll reading 0 cs = some ts := by
  have hnil := h [] nofun
  rwa [List.append_nil, JsonToken.scanAll, Option.map_some, List.append_nil] at hnil

theorem SpellsAll.scanAll_line (h : SpellsAll reading cs ts) :
    JsonToken.scanAll reading 0 (cs ++ ['\n']) = some ts := by
  have hempty : JsonToken.scanAll reading 0 ['\n'] = some [] := rfl
  rw [h ['\n'] (separates_cons (by decide) [] []), hempty, Option.map_some, List.append_nil]

end JsonToken

end Worksheet
