import Mathlib.Data.List.Nodup
import TreeSpec.Proofs.Token.Elements
import TreeSpec.Proofs.Token.RoundTrip

/-!
# Tokens from texts and from values

A token may be read while going through a text, or from the value that the text denotes. The two
readings visit the members of an object in different orders and stop at different faults. But a
member is read without regard to the others (`readValues_perm`), so both give the same token as
long as no member occurs twice (`text_agrees_with_value`). A text in which one does occur twice is
never read.
-/

namespace TreeSpec.Json

/-- The keys of an object. Any other value has none. -/
def Value.keys : Value → List String
  | .object members => members.map Prod.fst
  | _ => []

/-- The keys of an object as it is written, without those that have no characters. -/
def Written.keys : Written → List String
  | .object members => members.filterMap fun p => (decodePieces p.1).map String.ofList
  | _ => []

/-- Among members whose key occurs once, the last one with the key is the only one. -/
theorem member?_eq_some_iff {members : List (String × α)} {key : String} {v : α}
    (once : (members.map Prod.fst).count key ≤ 1) :
    member? members key = some v ↔ (key, v) ∈ members := by
  rw [member?, ← List.mem_reverse]
  constructor
  · intro h
    obtain ⟨before, behind, split, _⟩ := List.lookup_eq_some_iff.1 h
    simp [split]
  · intro h
    obtain ⟨before, behind, split⟩ := List.append_of_mem h
    refine List.lookup_eq_some_iff.2 ⟨before, behind, split, fun p hp => ?_⟩
    rw [← List.count_reverse, ← List.map_reverse, split, List.map_append, List.map_cons,
      List.count_append, List.count_cons_self] at once
    have absent : key ∉ before.map Prod.fst := by
      rw [← List.count_eq_zero]
      omega
    simpa using fun same : key = p.1 => absent (same ▸ List.mem_map_of_mem hp)

end TreeSpec.Json

namespace TreeSpec.Token

open Json

theorem Member.ofKey?_eq_some_iff {key : String} {m : Member} :
    Member.ofKey? key = some m ↔ key = m.key := by
  constructor
  · intro h
    have found : m.key = key := by simpa using List.find?_some h
    exact found.symm
  · rintro rfl
    exact Member.ofKey?_key m

/-- The members of a token among the members of an object, in the order of the object. -/
def known (members : List (String × α)) : List (Member × α) :=
  members.filterMap fun p => (Member.ofKey? p.1).map (·, p.2)

theorem map_fst_known (members : List (String × α)) :
    (known members).map Prod.fst = (members.map Prod.fst).filterMap Member.ofKey? := by
  simp [known, List.map_filterMap, List.filterMap_map, Function.comp_def]

theorem mem_known_iff {members : List (String × α)} {m : Member} {v : α} :
    (m, v) ∈ known members ↔ (m.key, v) ∈ members := by
  simp only [known, List.mem_filterMap, Option.map_eq_some_iff, Prod.mk.injEq,
    Member.ofKey?_eq_some_iff]
  constructor
  · rintro ⟨⟨key, v⟩, h, m, rfl, rfl, rfl⟩
    exact h
  · intro h
    exact ⟨_, h, m, rfl, rfl, rfl⟩

theorem nodup_members_iff {keys : List String} :
    (keys.filterMap Member.ofKey?).Nodup ↔ ∀ m : Member, keys.count m.key ≤ 1 := by
  rw [List.nodup_iff_count_le_one]
  refine forall_congr' fun m => ?_
  have same : (keys.filterMap Member.ofKey?).count m = keys.count m.key := by
    rw [List.count_filterMap, List.count_eq_countP]
    exact List.countP_congr fun key _ => by simp [Member.ofKey?_eq_some_iff]
  rw [same]

namespace Draft

variable {d d' : Draft} {m : Member} {v : Value}

theorem has_empty (m : Member) : empty.has m = false := by
  cases m <;> rfl

theorem has_of_readValue (h : d.readValue m v = .ok d') (m' : Member) :
    d'.has m' = (decide (m' = m) || d.has m') := by
  cases m with
  | tabLevel =>
    obtain ⟨n, level, rfl, _, rfl⟩ := readValue_tabLevel_iff.1 h
    cases m' <;> simp [has, withTabLevel]
  | text field =>
    obtain ⟨s, rfl, rfl⟩ := readValue_text_iff.1 h
    cases m' with
    | tabLevel => simp [has, withText]
    | text field' => by_cases same : field' = field <;> simp [has, withText, same]

theorem readValues_cons_iff {present : List (Member × Value)} :
    d.readValues ((m, v) :: present) = .ok d' ↔
      ∃ next, d.readValue m v = .ok next ∧ next.readValues present = .ok d' := by
  rw [readValues]
  cases d.readValue m v <;> simp

/-- Two members can be read in either order. -/
theorem readValue_comm {next : Draft} {m' : Member} {v' : Value} (other : m' ≠ m)
    (first : d.readValue m v = .ok next) (second : next.readValue m' v' = .ok d') :
    ∃ next', d.readValue m' v' = .ok next' ∧ next'.readValue m v = .ok d' := by
  cases m with
  | tabLevel =>
    obtain ⟨n, level, rfl, fits, rfl⟩ := readValue_tabLevel_iff.1 first
    cases m' with
    | tabLevel => exact absurd rfl other
    | text field =>
      obtain ⟨s, rfl, rfl⟩ := readValue_text_iff.1 second
      exact ⟨_, readValue_text_iff.2 ⟨s, rfl, rfl⟩,
        readValue_tabLevel_iff.2 ⟨n, level, rfl, fits, rfl⟩⟩
  | text field =>
    obtain ⟨s, rfl, rfl⟩ := readValue_text_iff.1 first
    cases m' with
    | tabLevel =>
      obtain ⟨n, level, rfl, fits, rfl⟩ := readValue_tabLevel_iff.1 second
      exact ⟨_, readValue_tabLevel_iff.2 ⟨n, level, rfl, fits, rfl⟩,
        readValue_text_iff.2 ⟨s, rfl, rfl⟩⟩
    | text field' =>
      obtain ⟨s', rfl, rfl⟩ := readValue_text_iff.1 second
      refine ⟨_, readValue_text_iff.2 ⟨s', rfl, rfl⟩, readValue_text_iff.2 ⟨s, rfl, ?_⟩⟩
      have apart : field' ≠ field := fun same => other (by rw [same])
      simp only [withText, mk.injEq, true_and]
      funext f
      by_cases hf : f = field
      · simp [hf, apart.symm]
      · simp [hf]

/-- Reading members gives the same in every order, as long as no member occurs twice. -/
theorem readValues_perm {present present' : List (Member × Value)} (perm : present.Perm present')
    (nodup : (present.map Prod.fst).Nodup) (h : d.readValues present = .ok d') :
    d.readValues present' = .ok d' := by
  induction perm generalizing d with
  | nil => exact h
  | cons p _ ih =>
    obtain ⟨next, first, rest⟩ := readValues_cons_iff.1 h
    exact readValues_cons_iff.2 ⟨next, first, ih (List.nodup_cons.1 nodup).2 rest⟩
  -- neighbours, of which neither is there twice, so they are two members
  | swap p q present =>
    obtain ⟨next, first, h⟩ := readValues_cons_iff.1 h
    obtain ⟨next', second, rest⟩ := readValues_cons_iff.1 h
    have other : p.1 ≠ q.1 := by
      intro same
      simp [same] at nodup
    obtain ⟨between, second, first⟩ := readValue_comm other first second
    exact readValues_cons_iff.2 ⟨between, second, readValues_cons_iff.2 ⟨next', first, rest⟩⟩
  | trans perm _ ih ih' =>
    exact ih' ((perm.map Prod.fst).nodup_iff.1 nodup) (ih nodup h)

section
variable {key : String} {w : Written}

theorem takes_unknown_iff (found : Member.ofKey? key = none) : d.Takes key w d' ↔ d' = d := by
  rw [Takes, found]

theorem takes_member_iff (found : Member.ofKey? key = some m) :
    d.Takes key w d' ↔ d.has m = false ∧ ∃ v, w.value? = some v ∧ d.readValue m v = .ok d' := by
  rw [Takes, found]

end

/-- No member that a draft takes has been read before or occurs twice. -/
theorem TakesAll.once {members : List (List Piece × Written)} (h : d.TakesAll members d') :
    ((Written.object members).keys.filterMap Member.ofKey?).Nodup ∧
      ∀ m ∈ (Written.object members).keys.filterMap Member.ofKey?, d.has m = false := by
  induction members generalizing d with
  | nil => simp [Written.keys]
  | cons p members ih =>
    obtain ⟨key, next, hd, takes, all⟩ := h
    obtain ⟨nodup, absent⟩ := ih all
    simp only [Written.keys, List.filterMap_cons, hd, Option.map_some] at nodup absent ⊢
    cases found : Member.ofKey? (String.ofList key) with
    | none =>
      obtain rfl := (takes_unknown_iff found).1 takes
      exact ⟨nodup, absent⟩
    | some m =>
      obtain ⟨new, v, _, read⟩ := (takes_member_iff found).1 takes
      have apart := has_of_readValue read
      refine ⟨List.nodup_cons.2 ⟨fun again => ?_, nodup⟩, fun m' hm' => ?_⟩
      · simpa [apart] using absent m again
      · rcases List.mem_cons.1 hm' with rfl | hm'
        · exact new
        · have none := absent m' hm'
          rw [apart, Bool.or_eq_false_iff] at none
          exact none.2

/-- If no member occurs twice, the members that a draft takes from a text are those that it reads
from the values of the text, in the order of the text. -/
theorem takesAll_iff {members : List (List Piece × Written)} {values : List (String × Value)}
    (h : memberValues? members = some values) (nodup : ((known values).map Prod.fst).Nodup)
    (absent : ∀ m ∈ (known values).map Prod.fst, d.has m = false) :
    d.TakesAll members d' ↔ d.readValues (known values) = .ok d' := by
  -- Members that are taken are in the draft from then on; the induction goes through because none
  -- of those still to come is among them.
  induction members generalizing d values with
  | nil =>
    cases h
    simp [TakesAll, known, readValues, eq_comm]
  | cons p members ih =>
    obtain ⟨key, v, more, hd, hv, rest, rfl⟩ := memberValues?_cons_iff.1 h
    have step : d.TakesAll (p :: members) d' ↔
        ∃ next, d.Takes (String.ofList key) p.2 next ∧ next.TakesAll members d' := by
      simp [TakesAll, hd]
    rw [step]
    cases found : Member.ofKey? (String.ofList key) with
    | none =>
      have skip : known ((String.ofList key, v) :: more) = known more := by simp [known, found]
      rw [skip] at nodup absent ⊢
      simp only [takes_unknown_iff found, exists_eq_left]
      exact ih rest nodup absent
    | some m =>
      have take : known ((String.ofList key, v) :: more) = (m, v) :: known more := by
        simp [known, found]
      rw [take, List.map_cons] at nodup absent
      obtain ⟨new, nodup⟩ := List.nodup_cons.1 nodup
      rw [take, readValues_cons_iff]
      refine exists_congr fun next => ?_
      have reads : d.Takes (String.ofList key) p.2 next ↔ d.readValue m v = .ok next := by
        simp [takes_member_iff found, hv, absent m List.mem_cons_self]
      rw [reads]
      refine and_congr_right fun read => ih rest nodup fun m' hm' => ?_
      have apart : m' ≠ m := fun same => new (same ▸ hm')
      simp [has_of_readValue read, apart, absent m' (List.mem_cons_of_mem m hm')]

/-- The elements that a draft takes from a text are those that it reads from their values. -/
theorem takesInOrder_iff {elements : List Written} {values : List Value} {members : List Member}
    (h : elementValues? elements = some values) :
    d.TakesInOrder members elements d' ↔
      values.length ≤ members.length ∧ d.readValues (members.zip values) = .ok d' := by
  induction elements generalizing d values members with
  | nil =>
    cases h
    simp [TakesInOrder, readValues, eq_comm]
  | cons w elements ih =>
    obtain ⟨v, more, hv, rest, rfl⟩ : ∃ v more, w.value? = some v ∧
        elementValues? elements = some more ∧ values = v :: more := by
      rw [elementValues?] at h
      cases hv : w.value? <;> cases rest : elementValues? elements <;> simp_all
    cases members with
    | nil => simp [TakesInOrder]
    | cons m members =>
      simp only [TakesInOrder, hv, Option.some.injEq, ↓existsAndEq, true_and, ih rest,
        List.zip_cons_cons, readValues_cons_iff, List.length_cons, Nat.add_le_add_iff_right]
      tauto

end Draft

section Objects

variable {members : List (String × Value)} {t : Token}

/-- The members of a token among the members of an object, in the order of their keys. -/
def knownByKey (members : List (String × Value)) : List (Member × Value) :=
  Member.byKey.filterMap fun m => (member? members m.key).map (m, ·)

theorem mem_knownByKey_iff {m : Member} {v : Value} :
    (m, v) ∈ knownByKey members ↔ member? members m.key = some v := by
  simp only [knownByKey, List.mem_filterMap, Option.map_eq_some_iff, Prod.mk.injEq]
  constructor
  · rintro ⟨_, _, _, found, rfl, rfl⟩
    exact found
  · intro found
    exact ⟨m, Member.mem_byKey m, v, found, rfl, rfl⟩

/-- No key occurs twice among what is found under different keys. -/
theorem nodup_keys {key : α → κ} (injective : key.Injective) {as : List α} (nodup : as.Nodup)
    (value : α → Option β) :
    ((as.filterMap fun a => (value a).map (key a, ·)).map Prod.fst).Nodup := by
  rw [List.map_filterMap]
  refine nodup.filterMap ?_
  intro a a' k ha ha'
  simp only [Option.map_map, Option.mem_def, Option.map_eq_some_iff, Function.comp_apply] at ha ha'
  obtain ⟨_, _, rfl⟩ := ha
  obtain ⟨_, _, same⟩ := ha'
  exact injective same.symm

theorem nodup_knownByKey (members : List (String × Value)) :
    ((knownByKey members).map Prod.fst).Nodup := by
  have nodup : Member.byKey.Nodup := by decide
  exact nodup_keys Function.injective_id nodup fun m => member? members m.key

theorem nodup_known (once : ∀ m : Member, (members.map Prod.fst).count m.key ≤ 1) :
    ((known members).map Prod.fst).Nodup := by
  rw [map_fst_known, nodup_members_iff]
  exact once

theorem known_perm (once : ∀ m : Member, (members.map Prod.fst).count m.key ≤ 1) :
    (known members).Perm (knownByKey members) := by
  refine (List.perm_ext_iff_of_nodup (nodup_known once).of_map
    (nodup_knownByKey members).of_map).2 ?_
  rintro ⟨m, v⟩
  rw [mem_knownByKey_iff, mem_known_iff, member?_eq_some_iff (once m)]

/-- An object in which no member occurs twice holds a token just when its members, read in the
order in which they are written, make one. -/
theorem ofValue_object_iff (once : ∀ m : Member, (members.map Prod.fst).count m.key ≤ 1) :
    ofValue (.object members) = .ok t ↔
      ∃ d, Draft.empty.readValues (known members) = .ok d ∧ d.token = .ok t := by
  have perm := known_perm once
  have same (d : Draft) : Draft.empty.readValues (known members) = .ok d ↔
      Draft.empty.readValues (knownByKey members) = .ok d :=
    ⟨Draft.readValues_perm perm (nodup_known once),
      Draft.readValues_perm perm.symm (nodup_knownByKey members)⟩
  simp only [same, knownByKey, ofValue]
  split <;> simp [*]

/-- The token of an object depends on its members of a token alone, and not on their order. -/
theorem ofValue_object_congr {members' : List (String × Value)}
    (once : ∀ m : Member, (members.map Prod.fst).count m.key ≤ 1)
    (once' : ∀ m : Member, (members'.map Prod.fst).count m.key ≤ 1)
    (same : ∀ (m : Member) (v : Value), (m.key, v) ∈ members ↔ (m.key, v) ∈ members') :
    ofValue (.object members) = ofValue (.object members') := by
  have found (m : Member) : member? members m.key = member? members' m.key := by
    ext v
    rw [member?_eq_some_iff (once m), member?_eq_some_iff (once' m), same]
  simp only [ofValue, found]

end Objects

/-- An array holds a token just when its elements, read for the members in their order, make
one. -/
theorem ofValue_array_iff {values : List Value} {t : Token} :
    ofValue (.array values) = .ok t ↔
      ∃ d, (values.length ≤ Member.all.length ∧
        Draft.empty.readValues (Member.all.zip values) = .ok d) ∧ d.token = .ok t := by
  rw [ofValue]
  split
  · simp [*]
  · rename_i d read
    cases values with
    | nil =>
      cases read
      refine iff_of_false (by simp) ?_
      rintro ⟨d, ⟨-, given⟩, token⟩
      obtain rfl : Draft.empty = d := Except.ok.inj given
      cases token
    | cons v values =>
      rw [if_neg (by simp)]
      by_cases long : Member.all.length < (v :: values).length
      · rw [if_pos long]
        refine iff_of_false (by simp) ?_
        rintro ⟨d, ⟨short, -⟩, -⟩
        exact Nat.not_lt.2 short long
      · rw [if_neg long]
        simp only [read, Nat.not_lt.1 long, Except.ok.injEq, true_and, exists_eq_left']

/-- A text whose object has no member of a token twice holds the token that its value holds. -/
theorem ofText_iff_ofValue {text : String} {v : Value} {t : Token}
    (h : Value.parse? text.toList = some v) (once : ∀ m : Member, v.keys.count m.key ≤ 1) :
    ofText text = .ok t ↔ ofValue v = .ok t := by
  cases v with
  | object members =>
    obtain ⟨ws, written, values⟩ := exists_members h
    rw [ofText_object_iff written, ofValue_object_iff once]
    simp only [Draft.takesAll_iff values (nodup_known once) fun m _ => Draft.has_empty m]
  | array values =>
    obtain ⟨elements, written, values⟩ := exists_elements h
    rw [ofText_array_iff written, ofValue_array_iff]
    simp only [Draft.takesInOrder_iff values]
  | _ =>
    refine iff_of_false ?_ nofun
    obtain ⟨w, written, value⟩ := exists_written h
    apply ofText_ne_ok_of_scalar written
    · rintro elements rfl
      simp [Written.value?] at value
    · rintro members rfl
      simp [Written.value?] at value

/-- A text whose object has a member of a token twice holds none. -/
theorem ofText_error_of_twice {text : String} {w : Written} {m : Member}
    (h : Written.parse text.toList = .ok w) (twice : 1 < w.keys.count m.key) :
    ∃ e, ofText text = .error e := by
  cases read : ofText text with
  | error e => exact ⟨e, rfl⟩
  | ok t =>
    cases w with
    | object members =>
      obtain ⟨d, takes, _⟩ := (ofText_object_iff h).1 read
      have once := nodup_members_iff.1 takes.once.1 m
      omega
    | _ => simp [Written.keys] at twice

/-- **Agreement.** If no member of a token occurs twice in the object of a text, then the text
holds just the token that its value holds, and the order of the members, other members and the
spelling do not matter. If one does occur twice, the text holds no token. -/
theorem text_agrees_with_value (text text' : String) :
    (∀ v, Value.parse? text.toList = some v → (∀ m : Member, v.keys.count m.key ≤ 1) →
      ∀ t, ofText text = .ok t ↔ ofValue v = .ok t) ∧
    (∀ members members', Value.parse? text.toList = some (.object members) →
      Value.parse? text'.toList = some (.object members') →
      (∀ m : Member, (members.map Prod.fst).count m.key ≤ 1 ∧
        (members'.map Prod.fst).count m.key ≤ 1) →
      (∀ (m : Member) (v : Value), (m.key, v) ∈ members ↔ (m.key, v) ∈ members') →
      ∀ t, ofText text = .ok t ↔ ofText text' = .ok t) ∧
    (∀ w, Written.parse text.toList = .ok w → ∀ m : Member, 1 < w.keys.count m.key →
      ∃ e, ofText text = .error e) := by
  refine ⟨fun v h once t => ofText_iff_ofValue h once, ?_, fun w h m => ofText_error_of_twice h⟩
  intro members members' h h' once same t
  have value := ofValue_object_congr (fun m => (once m).1) (fun m => (once m).2) same
  rw [ofText_iff_ofValue h fun m => (once m).1, value, ofText_iff_ofValue h' fun m => (once m).2]

/-- A text with an escape in a key and with a key of no member that occurs twice, a plain one for
the same token, and one with a name that is given again behind an escape. -/
theorem text_agrees_with_value_escaped :
    let text := "\x7b\"skip\":1,\"name\":\"x\",\"tab\\u005flevel\":3,\"skip\":[\x7b\x7d]\x7d"
    let plain := " \x7b\"tab_level\": 3, \"name\": \"x\"\x7d "
    let twice := "\x7b\"tab_level\":3,\"name\":\"x\",\"na\\u006de\":null\x7d"
    let one : Value := .number (.integer ⟨1, by decide, by decide⟩)
    let three : Value := .number (.integer ⟨3, by decide, by decide⟩)
    let members : List (String × Value) :=
      [("skip", one), ("name", .string "x"), ("tab_level", three), ("skip", .array [.object []])]
    Value.parse? text.toList = some (.object members) ∧
      (∀ t, ofText text = .ok t ↔ ofValue (.object members) = .ok t) ∧
      (∀ t, ofText text = .ok t ↔ ofText plain = .ok t) ∧
      ∃ e, ofText twice = .error e := by
  intro text plain twice one three members
  let members' : List (String × Value) := [("tab_level", three), ("name", .string "x")]
  have h : Value.parse? text.toList = some (.object members) := by decide +kernel
  have h' : Value.parse? plain.toList = some (.object members') := by decide +kernel
  have once : ∀ m : Member, (members.map Prod.fst).count m.key ≤ 1 :=
    nodup_members_iff.1 (by decide)
  have once' : ∀ m : Member, (members'.map Prod.fst).count m.key ≤ 1 :=
    nodup_members_iff.1 (by decide)
  have same : ∀ (m : Member) (v : Value), (m.key, v) ∈ members ↔ (m.key, v) ∈ members' := by
    intro m v
    rcases m with _ | f
    · simp [members, members', Member.key, tabLevelKey]
    · cases f <;> simp [members, members', Member.key, Field.key]
  obtain ⟨w, written, again⟩ : ∃ w, Written.parse twice.toList = .ok w ∧
      1 < w.keys.count (Member.text .name).key := by
    have checked : (Written.parse twice.toList).toOption.any
        (fun w => 1 < w.keys.count (Member.text .name).key) = true := by
      decide +kernel
    cases read : Written.parse twice.toList with
    | error e =>
      rw [read] at checked
      cases checked
    | ok w =>
      rw [read] at checked
      exact ⟨w, rfl, of_decide_eq_true checked⟩
  exact ⟨h, (text_agrees_with_value text plain).1 _ h once,
    (text_agrees_with_value text plain).2.1 _ _ h h' (fun m => ⟨once m, once' m⟩) same,
    (text_agrees_with_value twice plain).2.2 w written (.text .name) again⟩

end TreeSpec.Token
