import TreeSpec.Json.Value

/-!
# Strings of JSON

The two readers of strings agree: `readChars` gives the characters of the pieces that
`readPieces` gives, and fails where these have none. Writing a string and reading it gives
the string back, whatever characters it has.
-/

namespace TreeSpec.Json

theorem decodePieces_pair {lead trail : Nat} (hl : isLead lead = true)
    (ht : isTrail trail = true) (pieces : List Piece) :
    decodePieces (.unit lead :: .unit trail :: pieces) =
      (decodePieces pieces).map (pairChar lead trail :: ·) := by
  rw [decodePieces, if_pos hl, if_pos ht]

/-- The first unit of a pair without its partner has no character. -/
theorem decodePieces_lead {lead : Nat} {pieces : List Piece} (hl : isLead lead = true)
    (alone : ∀ trail rest, pieces = .unit trail :: rest → isTrail trail = false) :
    decodePieces (.unit lead :: pieces) = none := by
  cases pieces with
  | nil => simp [decodePieces, hl]
  | cons p pieces =>
    cases p with
    | char c => simp [decodePieces, hl]
    | unit trail => simp [decodePieces, hl, alone trail pieces rfl]

theorem decodePieces_lead_char {lead : Nat} (hl : isLead lead = true) (c : Char)
    (pieces : List Piece) : decodePieces (.unit lead :: .char c :: pieces) = none :=
  decodePieces_lead hl nofun

theorem decodePieces_trail {trail : Nat} (hl : isLead trail = false) (ht : isTrail trail = true)
    (pieces : List Piece) : decodePieces (.unit trail :: pieces) = none := by
  cases pieces with
  | nil => simp [decodePieces, ht]
  | cons p pieces => cases p <;> simp [decodePieces, hl, ht]

theorem decodePieces_unit {code : Nat} (hl : isLead code = false) (ht : isTrail code = false)
    (pieces : List Piece) :
    decodePieces (.unit code :: pieces) = (decodePieces pieces).map (Char.ofNat code :: ·) := by
  cases pieces with
  | nil => simp [decodePieces, hl, ht]
  | cons p pieces => cases p <;> simp [decodePieces, hl, ht]

theorem readPieces_unit {a b c d : Char} {code : Nat} (h : hexUnit? a b c d = some code)
    (cs : List Char) :
    readPieces ('\\' :: 'u' :: a :: b :: c :: d :: cs) =
      consRead (.unit code) (readPieces cs) := by
  rw [readPieces, h]

theorem readPieces_short {e : Char} (hu : e ≠ 'u') (cs : List Char) :
    readPieces ('\\' :: e :: cs) =
      (shortEscape? e).elim (.error .malformed) fun c => consRead (.char c) (readPieces cs) := by
  rw [readPieces]
  · cases shortEscape? e <;> rfl
  · exact fun _ _ _ _ _ he => absurd he hu
  · exact hu

theorem readPieces_plain {c : Char} (hq : c ≠ '"') (hb : c ≠ '\\') (cs : List Char) :
    readPieces (c :: cs) =
      if c < ' ' then .error .malformed else consRead (.char c) (readPieces cs) := by
  rw [readPieces]
  all_goals simp [hq, hb]

theorem exists_consRead_iff {x : α} {read : Except Fault (List α × List Char)}
    {rest : List Char} {P : List α → Prop} :
    (∃ ys, consRead x read = .ok (ys, rest) ∧ P ys) ↔
      ∃ xs, read = .ok (xs, rest) ∧ P (x :: xs) := by
  constructor
  · rintro ⟨_, h, hP⟩
    obtain ⟨xs, hr, rfl⟩ := consRead_eq_ok_iff.1 h
    exact ⟨xs, hr, hP⟩
  · rintro ⟨xs, hr, hP⟩
    exact ⟨_, consRead_eq_ok_iff.2 ⟨xs, hr, rfl⟩, hP⟩

theorem consRead_decoded {c : Char} {read : Except Fault (List Char × List Char)}
    {rest text : List Char} {R : List Piece → Prop}
    (h : ∀ tail, read = .ok (tail, rest) ↔ ∃ pieces, R pieces ∧ decodePieces pieces = some tail) :
    consRead c read = .ok (text, rest) ↔
      ∃ pieces, R pieces ∧ (decodePieces pieces).map (c :: ·) = some text := by
  rw [consRead_eq_ok_iff]
  constructor
  · rintro ⟨tail, ht, rfl⟩
    obtain ⟨pieces, hR, hd⟩ := (h tail).1 ht
    exact ⟨pieces, hR, by rw [hd]; rfl⟩
  · rintro ⟨pieces, hR, hd⟩
    obtain ⟨tail, ht, rfl⟩ := Option.map_eq_some_iff.1 hd
    exact ⟨tail, (h tail).2 ⟨pieces, hR, ht⟩, rfl⟩

/-- The piece of a pair that was read before. -/
def pending : Option Nat → List Piece
  | none => []
  | some lead => [.unit lead]

theorem ne_of_forall_tail {c d : Char} {cs : List Char}
    (cons : ∀ e rest, c = d → cs = e :: rest → False) (nil : c = d → cs = [] → False) :
    c ≠ d := by
  intro h
  cases cs with
  | nil => exact nil h rfl
  | cons e cs => exact cons e cs h rfl

/-- Both readers of strings agree: `readChars` gives the characters of the pieces that
`readPieces` gives, and it fails where these have none. -/
theorem readChars_eq_ok_iff {lead : Option Nat} {cs text rest : List Char}
    (hl : ∀ code, lead = some code → isLead code = true) :
    readChars lead cs = .ok (text, rest) ↔
      ∃ pieces, readPieces cs = .ok (pieces, rest) ∧
        decodePieces (pending lead ++ pieces) = some text := by
  fun_induction readChars lead cs generalizing text with
  | case1 lead a b c d cs hu => simp [readPieces, hu]
  -- A unit while another one is pending: it has to be the partner.
  | case2 a b c d cs code lead hu ht ih =>
    have pair := decodePieces_pair (hl lead rfl) ht
    simp only [readPieces_unit hu, exists_consRead_iff, pending, List.cons_append, List.nil_append,
      pair]
    exact consRead_decoded fun tail => ih nofun
  | case3 a b c d cs code lead hu ht =>
    have none (pieces : List Piece) : decodePieces (.unit lead :: .unit code :: pieces) = none :=
      decodePieces_lead (hl lead rfl) (by simp_all)
    simp [readPieces_unit hu, exists_consRead_iff, pending, none]
  -- A unit while none is pending: the first of a pair, the second of one, or a character.
  | case4 a b c d cs code hu hc ih =>
    have lead : ∀ u, some code = some u → isLead u = true := by
      rintro _ ⟨⟩
      exact hc
    rw [readPieces_unit hu, exists_consRead_iff]
    exact ih lead
  | case5 a b c d cs code hu hc ht =>
    simp [readPieces_unit hu, exists_consRead_iff, pending,
      decodePieces_trail (Bool.eq_false_iff.2 hc) ht]
  | case6 a b c d cs code hu hc ht ih =>
    have unit := decodePieces_unit (Bool.eq_false_iff.2 hc) (Bool.eq_false_iff.2 ht)
    simp only [readPieces_unit hu, exists_consRead_iff, pending, List.nil_append, unit]
    exact consRead_decoded fun tail => ih nofun
  | case7 lead cs short =>
    rw [readPieces]
    · simp
    · exact short
  -- A short escape, which cannot be a partner.
  | case8 e cs _ hu c he ih =>
    simp only [readPieces_short hu, he, Option.elim_some, exists_consRead_iff, pending,
      List.nil_append, decodePieces]
    exact consRead_decoded fun tail => ih nofun
  | case9 lead e cs _ hu he =>
    rw [readPieces_short hu]
    cases hs : shortEscape? e with
    | none => simp
    | some c =>
      obtain ⟨code, rfl⟩ := Option.ne_none_iff_exists'.1 (he c hs)
      simp [exists_consRead_iff, pending, decodePieces_lead_char (hl code rfl)]
  | case10 => simp [readPieces]
  | case11 lead cs hs =>
    obtain ⟨code, rfl⟩ := Option.isSome_iff_exists.1 hs
    have none : decodePieces [.unit code] = none := decodePieces_lead (hl code rfl) nofun
    simp [readPieces, pending, none]
  | case12 lead cs hs =>
    obtain rfl := Option.not_isSome_iff_eq_none.1 hs
    simp only [readPieces, Except.ok.injEq, Prod.mk.injEq, pending, List.nil_append]
    constructor
    · rintro ⟨rfl, rfl⟩
      exact ⟨[], ⟨rfl, rfl⟩, rfl⟩
    · rintro ⟨_, ⟨rfl, rfl⟩, hd⟩
      exact ⟨Option.some.inj hd, rfl⟩
  -- Any other character stands for itself; it cannot be a partner either.
  | case13 lead c cs _ _ hb hb' hq hc =>
    rw [readPieces_plain hq (ne_of_forall_tail hb hb')]
    split
    · simp
    · rename_i hlow
      obtain ⟨code, rfl⟩ := Option.isSome_iff_exists.1 (by simpa [hlow] using hc)
      simp [exists_consRead_iff, pending, decodePieces_lead_char (hl code rfl)]
  | case14 lead c cs _ _ hb hb' hq hc ih =>
    simp only [Bool.or_eq_true, not_or, Option.not_isSome_iff_eq_none, decide_eq_true_eq] at hc
    obtain ⟨rfl, hlow⟩ := hc
    rw [readPieces_plain hq (ne_of_forall_tail hb hb'), if_neg hlow]
    simp only [exists_consRead_iff, pending, List.nil_append, decodePieces]
    exact consRead_decoded fun tail => ih nofun
  | case15 => simp [readPieces]

/-- The piece that a written character is read as. -/
def pieceOf (c : Char) : Piece :=
  if c < ' ' ∧ c ≠ '\x08' ∧ c ≠ '\x0c' ∧ c ≠ '\n' ∧ c ≠ '\r' ∧ c ≠ '\t' then .unit c.toNat
  else .char c

theorem toNat_of_lt_blank {c : Char} (h : c < ' ') : c.toNat < 32 := by
  have := UInt32.lt_iff_toNat_lt.1 h
  exact this

theorem hexUnit?_hexDigit {n : Nat} (h : n < 32) :
    hexUnit? '0' '0' (hexDigit (n / 16)) (hexDigit (n % 16)) = some n := by
  revert n
  decide

theorem pieceOf_of_not_lt {c : Char} (h : ¬ c < ' ') : pieceOf c = .char c :=
  if_neg fun hc => h hc.1

theorem readPieces_escapeChar (c : Char) (cs : List Char) :
    readPieces (escapeChar c ++ cs) = consRead (pieceOf c) (readPieces cs) := by
  by_cases short : c = '"' ∨ c = '\\' ∨ c = '\x08' ∨ c = '\x0c' ∨ c = '\n' ∨ c = '\r' ∨ c = '\t'
  · rcases short with rfl | rfl | rfl | rfl | rfl | rfl | rfl
    all_goals exact readPieces_short (by decide) cs
  · simp only [not_or] at short
    obtain ⟨hq, hb, h1, h2, h3, h4, h5⟩ := short
    unfold escapeChar
    rw [if_neg hq, if_neg hb, if_neg h1, if_neg h2, if_neg h3, if_neg h4, if_neg h5]
    split
    · rename_i hlow
      rw [pieceOf, if_pos ⟨hlow, h1, h2, h3, h4, h5⟩]
      exact readPieces_unit (hexUnit?_hexDigit (toNat_of_lt_blank hlow)) cs
    · rename_i hlow
      rw [pieceOf_of_not_lt hlow]
      exact (readPieces_plain hq hb cs).trans (if_neg hlow)

/-- What a string is read as that was written: one piece for each character. -/
theorem readPieces_flatMap (s rest : List Char) :
    readPieces (s.flatMap escapeChar ++ '"' :: rest) = .ok (s.map pieceOf, rest) := by
  induction s with
  | nil => rfl
  | cons c s ih =>
    rw [List.flatMap_cons, List.append_assoc, readPieces_escapeChar, ih]
    rfl

theorem decodePieces_pieceOf (c : Char) (pieces : List Piece) :
    decodePieces (pieceOf c :: pieces) = (decodePieces pieces).map (c :: ·) := by
  unfold pieceOf
  split
  · rename_i h
    have low := toNat_of_lt_blank h.1
    have lead : isLead c.toNat = false := by
      simp [isLead]
      omega
    have trail : isTrail c.toNat = false := by
      simp [isTrail]
      omega
    rw [decodePieces_unit lead trail, Char.ofNat_toNat]
  · rfl

theorem decodePieces_map_pieceOf (s : List Char) : decodePieces (s.map pieceOf) = some s := by
  induction s with
  | nil => rfl
  | cons c s ih => rw [List.map_cons, decodePieces_pieceOf, ih, Option.map_some]

end TreeSpec.Json
