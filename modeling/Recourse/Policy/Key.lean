import Mathlib.Data.List.DropRight
import Recourse.Policy.Types

namespace Recourse

/-!
# `ParseKey` and `PolicyKey.String`

`ParseKey` trims its input, splits it at the first `.` into a namespace and a
name, and trims both parts; a string with no dot, or with nothing after its
first dot, becomes a bare name.  `String` prints `ns.name`, or the one part
that is set.

Strings are Lean strings, sequences of Unicode scalar values: Go's byte
indices and `IndexByte` agree with character positions here because `.` is a
one-byte character.  `strings.TrimSpace` and `unicode.IsSpace` are the
standard library's, modelled from their definitions.

White space around a key, in the sense of `unicode.IsSpace`, does not change
what it parses to (`parseKey_spaces_around`).  Printing and parsing round-trip
exactly for the keys whose namespace is set, or whose name has nothing but
white space after its first dot (`parseKey_round_trip`).  Any other key with
an empty namespace is printed as its name alone, which parses into a namespace
and a shorter name: `.a.b` parses to the name `a.b`, which prints as `a.b`,
which parses to `a` and `b`.
-/

/-- `unicode.IsSpace`: the Latin-1 spaces, then the Unicode `White_Space` ranges above it. -/
def isSpace (c : Char) : Bool :=
  if c.toNat ≤ 0xFF then
    c = '\t' || c = '\n' || c.toNat = 0x0B || c.toNat = 0x0C || c = '\r' || c = ' ' ||
      c.toNat = 0x85 || c.toNat = 0xA0
  else
    c.toNat = 0x1680 || (0x2000 ≤ c.toNat && c.toNat ≤ 0x200A) || c.toNat = 0x2028 ||
      c.toNat = 0x2029 || c.toNat = 0x202F || c.toNat = 0x205F || c.toNat = 0x3000

/-- `strings.TrimSpace`: white space dropped from the front, then from the back. -/
def trimSpace (s : String) : String :=
  ⟨(s.data.dropWhile isSpace).rdropWhile isSpace⟩

/-- `strings.IndexByte`, with `none` for `-1`. -/
def indexByte (s : String) (c : Char) : Option Nat :=
  s.data.indexOf? c

/-- `ParseKey`. -/
def parseKey (s : String) : PolicyKey :=
  let s := trimSpace s
  if s = "" then ⟨"", ""⟩
  else
    match indexByte s '.' with
    | none => ⟨"", s⟩
    | some i =>
        let ns := trimSpace ⟨s.data.take i⟩
        let name := trimSpace ⟨s.data.drop (i + 1)⟩
        if name = "" then ⟨"", s⟩ else ⟨ns, name⟩

/-- `PolicyKey.String`. -/
def PolicyKey.string (k : PolicyKey) : String :=
  if k.namespace_ = "" then k.name
  else if k.name = "" then k.namespace_
  else k.namespace_ ++ "." ++ k.name

/--
A key that prints unambiguously: its namespace is set, or its name has no dot,
or only white space after its first dot.
-/
def PolicyKey.Unambiguous (k : PolicyKey) : Prop :=
  k.namespace_ ≠ "" ∨ ∀ i ∈ indexByte k.name '.', trimSpace ⟨k.name.data.drop (i + 1)⟩ = ""

instance (k : PolicyKey) : Decidable k.Unambiguous :=
  inferInstanceAs (Decidable (_ ∨ _))

/-! ## Trimmed strings -/

/-- A character list with no white space at either end. -/
def Trimmed (l : List Char) : Prop :=
  l.dropWhile isSpace = l ∧ l.rdropWhile isSpace = l

theorem trimmed_nil : Trimmed [] := ⟨rfl, rfl⟩

theorem trimSpace_of_trimmed {s : String} (trimmed : Trimmed s.data) : trimSpace s = s := by
  rw [trimSpace, trimmed.1, trimmed.2]

/-- Dropping from the back keeps a front that was already free of white space. -/
theorem dropWhile_rdropWhile {p : Char → Bool} {l : List Char} (front : l.dropWhile p = l) :
    (l.rdropWhile p).dropWhile p = l.rdropWhile p := by
  rw [List.dropWhile_eq_self_iff] at front ⊢
  intro nonempty
  have kept := List.rdropWhile_prefix p l
  simp only [List.get_eq_getElem] at front ⊢
  rw [kept.getElem nonempty]
  exact front (Nat.lt_of_lt_of_le nonempty kept.length_le)

/-- Dropping from the front skips a leading run of dropped characters. -/
theorem dropWhile_append_of_all {p : Char → Bool} {front back : List Char}
    (dropped : ∀ c ∈ front, p c = true) : (front ++ back).dropWhile p = back.dropWhile p := by
  rw [List.dropWhile_append, if_pos (by simp [List.dropWhile_eq_nil_iff.2 dropped])]

/-- Dropping from the back skips a trailing run of dropped characters. -/
theorem rdropWhile_append_of_all {p : Char → Bool} {front back : List Char}
    (dropped : ∀ c ∈ back, p c = true) : (front ++ back).rdropWhile p = front.rdropWhile p := by
  unfold List.rdropWhile
  rw [List.reverse_append, dropWhile_append_of_all (by simpa using dropped)]

/-- White space around a string leaves its trimmed form alone. -/
theorem trimSpace_spaces_around {s : String} {front back : List Char}
    (frontSpaces : ∀ c ∈ front, isSpace c = true) (backSpaces : ∀ c ∈ back, isSpace c = true) :
    trimSpace ⟨front ++ s.data ++ back⟩ = trimSpace s := by
  unfold trimSpace
  rw [List.append_assoc, dropWhile_append_of_all frontSpaces, List.dropWhile_append]
  split_ifs with blank
  · rw [List.isEmpty_iff.1 blank, List.dropWhile_eq_nil_iff.2 backSpaces]
  · rw [rdropWhile_append_of_all backSpaces]

theorem trimmed_trimSpace (s : String) : Trimmed (trimSpace s).data :=
  ⟨dropWhile_rdropWhile (List.dropWhile_idempotent _ _), List.rdropWhile_idempotent _ _⟩

theorem trimSpace_trimSpace (s : String) : trimSpace (trimSpace s) = trimSpace s :=
  trimSpace_of_trimmed (trimmed_trimSpace s)

theorem sublist_trimSpace (s : String) : (trimSpace s).data.Sublist s.data :=
  (List.rdropWhile_prefix _ _).sublist.trans (List.dropWhile_suffix _).sublist

/-- Two non-empty trimmed lists joined by any character. -/
theorem trimmed_append {front back : List Char} {c : Char}
    (trimmedFront : Trimmed front) (trimmedBack : Trimmed back)
    (frontNonempty : front ≠ []) (backNonempty : back ≠ []) :
    Trimmed (front ++ c :: back) := by
  constructor
  · rw [List.dropWhile_append, trimmedFront.1, if_neg (by simpa using frontNonempty)]
  · have lastKept := List.rdropWhile_eq_self_iff.1 trimmedBack.2 backNonempty
    exact List.rdropWhile_eq_self_iff.2 fun _ => by
      simpa [List.getLast_append_of_ne_nil (List.cons_ne_nil c back),
        List.getLast_cons backNonempty] using lastKept

theorem indexOf?_append {c : Char} {back : List Char} :
    ∀ {front : List Char}, c ∉ front → (front ++ c :: back).indexOf? c = some front.length
  | [], _ => by simp [List.indexOf?_cons]
  | d :: front, absent => by
      rw [List.mem_cons, not_or] at absent
      simp [List.indexOf?_cons, Ne.symm absent.1, indexOf?_append absent.2]

theorem not_mem_take_of_indexOf? {c : Char} :
    ∀ {l : List Char} {i : Nat}, l.indexOf? c = some i → c ∉ l.take i
  | [], _, found => by simp at found
  | d :: l, i, found => by
      rw [List.indexOf?_cons] at found
      split_ifs at found with here
      · cases found
        simp
      · obtain ⟨j, rest, rfl⟩ := Option.map_eq_some'.1 found
        simp only [List.take_succ_cons, List.mem_cons, not_or]
        exact ⟨fun same => here (by simp [same]), not_mem_take_of_indexOf? rest⟩

/-! ## What `ParseKey` returns -/

/--
The shape of every key `ParseKey` returns: both parts trimmed, no dot in the
namespace, and a name whenever there is a namespace.
-/
structure Parsed (k : PolicyKey) : Prop where
  namespace_trimmed : Trimmed k.namespace_.data
  name_trimmed : Trimmed k.name.data
  dot_not_mem : '.' ∉ k.namespace_.data
  name_of_namespace : k.namespace_ ≠ "" → k.name ≠ ""

theorem parsed_bare {name : String} (trimmed : Trimmed name.data) : Parsed ⟨"", name⟩ :=
  ⟨trimmed_nil, trimmed, List.not_mem_nil _, fun set => absurd rfl set⟩

theorem parseKey_parsed (s : String) : Parsed (parseKey s) := by
  dsimp only [parseKey]
  split_ifs with blank
  · exact parsed_bare trimmed_nil
  · split
    · exact parsed_bare (trimmed_trimSpace s)
    · rename_i i found
      split_ifs with nameBlank
      · exact parsed_bare (trimmed_trimSpace s)
      · exact ⟨trimmed_trimSpace _, trimmed_trimSpace _,
          fun dot => not_mem_take_of_indexOf? found ((sublist_trimSpace _).subset dot),
          fun _ => nameBlank⟩

/-! ## The round trip -/

theorem ne_empty_of_data {s : String} (nonempty : s.data ≠ []) : s ≠ "" :=
  mt (fun blank => String.ext_iff.1 blank) nonempty

/--
A trimmed string parses to itself as a bare name exactly when nothing but white
space follows its first dot; otherwise the name it parses to is shorter.
-/
theorem parseKey_bare {s : String} (trimmed : Trimmed s.data) :
    parseKey s = ⟨"", s⟩ ↔ ∀ i ∈ indexByte s '.', trimSpace ⟨s.data.drop (i + 1)⟩ = "" := by
  simp only [parseKey, trimSpace_of_trimmed trimmed]
  split_ifs with blank
  · subst blank
    exact iff_of_true rfl fun _ found => (Option.not_mem_none _ found).elim
  · cases found : indexByte s '.' with
    | none => exact iff_of_true rfl fun _ found => (Option.not_mem_none _ found).elim
    | some i =>
      simp only [Option.mem_def, Option.some.injEq, forall_eq']
      split_ifs with restBlank
      · exact iff_of_true rfl restBlank
      · refine iff_of_false (fun same => ?_) restBlank
        have shorter := (sublist_trimSpace ⟨s.data.drop (i + 1)⟩).length_le
        have nonempty : 0 < (trimSpace ⟨s.data.drop (i + 1)⟩).data.length :=
          List.length_pos.2 (mt String.ext_iff.2 restBlank)
        have sameName := congrArg (·.name.data.length) same
        simp only [List.length_drop] at shorter sameName
        omega

/-- `ns.name`, both parts trimmed and non-empty and no dot in `ns`, parses to `ns` and `name`. -/
theorem parseKey_join {ns name : String} (parsed : Parsed ⟨ns, name⟩) (named : ns ≠ "") :
    parseKey (ns ++ "." ++ name) = ⟨ns, name⟩ := by
  have nameSet := parsed.name_of_namespace named
  have joined : (ns ++ "." ++ name).data = ns.data ++ '.' :: name.data := by simp
  have nonempty : ns.data ≠ [] := mt String.ext_iff.2 named
  have trimmedJoin : Trimmed (ns ++ "." ++ name).data := joined ▸
    trimmed_append parsed.namespace_trimmed parsed.name_trimmed nonempty
      (mt String.ext_iff.2 nameSet)
  have dropped : (ns.data ++ '.' :: name.data).drop (ns.data.length + 1) = name.data := by
    rw [← List.singleton_append, ← List.append_assoc]
    exact List.drop_left' (by rw [List.length_append, List.length_singleton])
  simp only [parseKey, trimSpace_of_trimmed trimmedJoin, indexByte, joined,
    indexOf?_append parsed.dot_not_mem, List.take_left' rfl, dropped,
    if_neg (ne_empty_of_data (joined ▸ List.append_ne_nil_of_left_ne_nil nonempty _))]
  rw [trimSpace_of_trimmed parsed.namespace_trimmed, trimSpace_of_trimmed parsed.name_trimmed,
    if_neg nameSet]

/-- A parsed key prints and parses back to itself exactly when it prints unambiguously. -/
theorem parseKey_string_iff {k : PolicyKey} (parsed : Parsed k) :
    parseKey k.string = k ↔ k.Unambiguous := by
  obtain ⟨ns, name⟩ := k
  by_cases bare : ns = ""
  · subst bare
    simp only [PolicyKey.string, PolicyKey.Unambiguous, if_pos rfl, ne_eq, not_true_eq_false,
      false_or]
    exact parseKey_bare parsed.name_trimmed
  · simp only [PolicyKey.string, if_neg bare, if_neg (parsed.name_of_namespace bare)]
    exact iff_of_true (parseKey_join parsed bare) (.inl bare)

/--
Printing a key `ParseKey` returned and parsing the result gives the key back
exactly when its namespace is set or its name has nothing but white space after
its first dot; two such keys that print the same are equal.
-/
theorem parseKey_round_trip :
    (∀ s, parseKey (parseKey s).string = parseKey s ↔ (parseKey s).Unambiguous) ∧
      (∀ s t, (parseKey s).Unambiguous → (parseKey t).Unambiguous →
        (parseKey s).string = (parseKey t).string → parseKey s = parseKey t) := by
  refine ⟨fun s => parseKey_string_iff (parseKey_parsed s), fun s t first second same => ?_⟩
  rw [← (parseKey_string_iff (parseKey_parsed s)).2 first, same,
    (parseKey_string_iff (parseKey_parsed t)).2 second]

/-- `ParseKey` reads the same key whatever white space stands around it. -/
theorem parseKey_spaces_around (s : String) {front back : List Char}
    (frontSpaces : ∀ c ∈ front, isSpace c = true) (backSpaces : ∀ c ∈ back, isSpace c = true) :
    parseKey ⟨front ++ s.data ++ back⟩ = parseKey s := by
  simp only [parseKey, trimSpace_spaces_around frontSpaces backSpaces]

/-- A tab and an ideographic space before `svc.Method`, a newline after it. -/
theorem parseKey_spaces_around_svc :
    (∀ c ∈ ['\t', Char.ofNat 0x3000], isSpace c = true) ∧ (∀ c ∈ ['\n'], isSpace c = true) ∧
      parseKey ⟨['\t', Char.ofNat 0x3000] ++ "svc.Method".data ++ ['\n']⟩ = parseKey "svc.Method" :=
  ⟨by decide, by decide, parseKey_spaces_around "svc.Method" (by decide) (by decide)⟩

/-- Where the round trip fails: `.a.b` parses to the bare name `a.b`, which prints as `a.b`, as `a.b` itself does. -/
theorem parseKey_round_trip_fails :
    parseKey (parseKey ".a.b").string ≠ parseKey ".a.b" ∧
      parseKey ".a.b" ≠ parseKey "a.b" ∧ (parseKey ".a.b").string = (parseKey "a.b").string := by
  decide

/--
The round trip at `svc.Method`, at the same key written with spaces, and at
`svc.`, a bare name whose dot is last.
-/
theorem parseKey_round_trip_svc :
    (parseKey "svc.Method").Unambiguous ∧ (parseKey " svc . Method ").Unambiguous ∧
      parseKey (parseKey "svc.Method").string = parseKey "svc.Method" ∧
      (parseKey "svc.Method").string = (parseKey " svc . Method ").string ∧
      parseKey "svc.Method" = parseKey " svc . Method " ∧
      (parseKey "svc.").Unambiguous ∧ parseKey (parseKey "svc.").string = parseKey "svc." :=
  ⟨by decide, by decide, (parseKey_round_trip.1 _).2 (by decide), by decide,
    parseKey_round_trip.2 _ _ (by decide) (by decide) (by decide), by decide,
    (parseKey_round_trip.1 _).2 (by decide)⟩

end Recourse
