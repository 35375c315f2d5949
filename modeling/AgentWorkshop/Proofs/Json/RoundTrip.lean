import AgentWorkshop.Proofs.Json.Scan
import AgentWorkshop.Proofs.Text.Scalar

/-!
# Reading back what was printed

`Exact` data has no reals, no integer longer than is read and no key twice, and is nested
no deeper than it says. Printed and read again it is the same value (`read_print`). That
does not depend on how code points outside ASCII are written, as long as every string of
the value can be read back (`IsSpelling`, `ReadsBack`), so the theorem is proved for all
spellings at once (`read_spelled`).
-/

namespace AgentWorkshop

namespace Json

open Text

/-- **Exact data**, at most `depth` containers one inside the other: no reals, integers
with no more digits than are read, every key of an object once, and texts as `p` wants them. -/
inductive Exact (p : Text → Prop) : (depth : Nat) → Json → Prop
  | null {depth : Nat} : Exact p depth null
  | boolean {depth : Nat} {b : Bool} : Exact p depth (boolean b)
  | integer {depth : Nat} {n : Int} (digits : (ofNat n.natAbs).length ≤ digitLimit) :
    Exact p depth (integer n)
  | string {depth : Nat} {t : Text} (text : p t) : Exact p depth (string t)
  | array {depth : Nat} {vs : List Json} (elements : ∀ v ∈ vs, Exact p depth v) :
    Exact p (depth + 1) (array vs)
  | object {depth : Nat} {ms : List (Text × Json)} (distinct : (ms.map Prod.fst).Nodup)
    (keys : ∀ m ∈ ms, p m.1) (values : ∀ m ∈ ms, Exact p depth m.2) :
    Exact p (depth + 1) (object ms)

variable {p q : Text → Prop} {depth depth' fuel : Nat} {v : Json} {vs : List Json}
variable {ms : List (Text × Json)} {s t rest : Text}

/-- Less may be asked of the texts. -/
theorem Exact.imp (hpq : ∀ t, p t → q t) (h : Exact p depth v) : Exact q depth v := by
  induction h with
  | null => exact .null
  | boolean => exact .boolean
  | integer digits => exact .integer digits
  | string text => exact .string (hpq _ text)
  | array _ ih => exact .array ih
  | object distinct keys _ ih => exact .object distinct (fun m hm => hpq _ (keys m hm)) ih

/-- And more depth be allowed. -/
theorem Exact.mono (hdepth : depth ≤ depth') (h : Exact p depth v) : Exact p depth' v := by
  induction h generalizing depth' with
  | null => exact .null
  | boolean => exact .boolean
  | integer digits => exact .integer digits
  | string text => exact .string text
  | array _ ih =>
    obtain ⟨d, rfl⟩ := Nat.exists_eq_add_of_lt hdepth
    exact .array fun v hv => ih v hv (by omega)
  | object distinct keys _ ih =>
    obtain ⟨d, rfl⟩ := Nat.exists_eq_add_of_lt hdepth
    exact .object distinct keys fun m hm => ih m hm (by omega)

/-- An object with one member is exact if its value is. -/
theorem Exact.single {k : Text} (hk : p k) (h : Exact p depth v) :
    Exact p (depth + 1) (.object [(k, v)]) :=
  .object (List.pairwise_singleton _ _) (List.forall_mem_singleton.2 hk)
    (List.forall_mem_singleton.2 h)

/-! ## Spellings -/

/-- A way of writing code points that leaves ASCII as it is. -/
structure IsSpelling (e : CodePoint → Text) : Prop where
  ascii : ∀ c, c.val < 0x7F → e c = [c]
  ne_nil : ∀ c, e c ≠ []

/-- The text can be read back from a string of this spelling. -/
def ReadsBack (e : CodePoint → Text) (t : Text) : Prop :=
  ∀ rest, scanString ((t.flatMap printPoint).flatMap e ++ ('"' : CodePoint) :: rest) =
    some (t, rest)

variable {e : CodePoint → Text}

/-- ASCII is spelled as it is. -/
theorem IsSpelling.flatMap_ascii (he : IsSpelling e) (ht : ∀ c ∈ t, c.val < 0x7F) :
    t.flatMap e = t := by
  induction t with
  | nil => rfl
  | cons c t ih =>
    rw [List.forall_mem_cons] at ht
    rw [List.flatMap_cons, he.ascii c ht.1, ih ht.2, List.singleton_append]

theorem IsSpelling.length_le (he : IsSpelling e) (t : Text) : t.length ≤ (t.flatMap e).length := by
  induction t with
  | nil => rfl
  | cons c t ih =>
    have := List.length_pos_iff.2 (he.ne_nil c)
    rw [List.flatMap_cons, List.length_append, List.length_cons]
    omega

/-! ## How a value starts -/

/-- The text starts with an ASCII sign that is neither a blank nor closes a container. -/
def Starts (t : Text) : Prop :=
  ∃ c s, t = c :: s ∧ c.val < 0x7F ∧ isSpace c = false ∧ c ≠ ']' ∧ c ≠ '\x7d'

theorem starts_cons {c : CodePoint} (hascii : c.val < 0x7F) (hspace : isSpace c = false)
    (hclose : c ≠ ']' ∧ c ≠ '\x7d') : Starts (c :: s) :=
  ⟨c, s, rfl, hascii, hspace, hclose⟩

theorem Starts.append (h : Starts s) : Starts (s ++ t) := by
  obtain ⟨c, s', rfl, hascii, hspace, hclose⟩ := h
  exact starts_cons hascii hspace hclose

theorem Starts.flatMap (he : IsSpelling e) (h : Starts s) : Starts (s.flatMap e) := by
  obtain ⟨c, s', rfl, hascii, hspace, hclose⟩ := h
  rw [List.flatMap_cons, he.ascii c hascii]
  exact starts_cons hascii hspace hclose

theorem Starts.skipSpace (h : Starts s) : skipSpace s = s := by
  obtain ⟨c, s', rfl, -, hspace, -⟩ := h
  rw [Json.skipSpace, List.dropWhile_cons, hspace]
  rfl

/-- A literal is ASCII. -/
def isAscii (s : String) : Bool :=
  s.toList.all fun c => c.toNat < 0x7F

/-- The code points of a literal are ASCII if its characters are. -/
theorem ascii_text (s : String) (hs : isAscii s = true) :
    ∀ c ∈ AgentWorkshop.text s, c.val < 0x7F := by
  intro c hc
  obtain ⟨d, hd, rfl⟩ := List.mem_map.1 hc
  exact of_decide_eq_true (List.all_eq_true.1 hs d hd)

/-- So are those of an integer. -/
theorem ascii_ofInt (n : Int) : ∀ c ∈ ofInt n, c.val < 0x7F := by
  have hnat : ∀ n, ∀ c ∈ ofNat n, c.val < 0x7F := by
    intro n c hc
    have := isAsciiDigit_of_mem_ofNat hc
    simp only [CodePoint.isAsciiDigit, Bool.and_eq_true, decide_eq_true_eq] at this
    omega
  cases n with
  | ofNat n => exact hnat n
  | negSucc n =>
    rw [ofInt, List.forall_mem_cons]
    exact ⟨by decide, hnat _⟩

theorem starts_ofInt (n : Int) : Starts (ofInt n) := by
  have hdigit : ∀ d < 10, (hexDigit d).val < 0x7F ∧ isSpace (hexDigit d) = false ∧
      hexDigit d ≠ ']' ∧ hexDigit d ≠ '\x7d' := by decide
  cases n with
  | ofNat n =>
    obtain ⟨d, digits, hdigits, hd, -⟩ := ofNat_cases n
    rw [ofInt, hdigits]
    exact starts_cons (hdigit d hd).1 (hdigit d hd).2.1 (hdigit d hd).2.2
  | negSucc n => exact starts_cons (by decide) (by decide) (by decide)

/-- **Every exact value starts with a sign of its own.** -/
theorem Exact.starts (h : Exact p depth v) : Starts v.print := by
  cases h with
  | null => exact starts_cons (by decide) (by decide) (by decide)
  | @boolean _ b => cases b <;> exact starts_cons (by decide) (by decide) (by decide)
  | integer => exact starts_ofInt _
  | string => exact starts_cons (by decide) (by decide) (by decide)
  | array => exact starts_cons (by decide) (by decide) (by decide)
  | object => exact starts_cons (by decide) (by decide) (by decide)

/-! ## Fuel -/

theorem length_le_printElements (hvs : ∀ v ∈ vs, Starts v.print) :
    vs.length ≤ (printElements vs).length := by
  induction vs with
  | nil => rfl
  | cons v rest ih =>
    rw [List.forall_mem_cons] at hvs
    obtain ⟨⟨c, s, hv, -⟩, hrest⟩ := hvs
    have := ih hrest
    cases rest with
    | nil => simp [printElements, hv]
    | cons w rest =>
      simp only [printElements, hv, List.length_append, List.length_cons] at this ⊢
      omega

theorem length_print_le_elements (hv : v ∈ vs) : v.print.length ≤ (printElements vs).length := by
  induction vs with
  | nil => cases hv
  | cons w rest ih =>
    cases rest with
    | nil => rw [List.mem_singleton.1 hv, printElements]
    | cons x rest =>
      rw [printElements, List.length_append, List.length_append]
      rcases List.mem_cons.1 hv with rfl | hv
      · omega
      · have := ih hv
        omega

theorem length_le_printMembers (ms : List (Text × Json)) :
    ms.length ≤ (printMembers ms).length := by
  induction ms with
  | nil => rfl
  | cons m rest ih =>
    obtain ⟨k, v⟩ := m
    have hkey : 0 < (printString k).length := by simp [printString, AgentWorkshop.text]
    cases rest with
    | nil =>
      rw [printMembers, List.length_append, List.length_append, List.length_singleton]
      omega
    | cons w rest =>
      simp only [printMembers, List.length_append, List.length_cons] at ih ⊢
      omega

theorem length_print_le_members {k : Text} (hv : (k, v) ∈ ms) :
    v.print.length ≤ (printMembers ms).length := by
  induction ms with
  | nil => cases hv
  | cons m rest ih =>
    obtain ⟨k', w⟩ := m
    cases rest with
    | nil =>
      cases List.mem_singleton.1 hv
      rw [printMembers, List.length_append]
      omega
    | cons x rest =>
      rw [printMembers]
      simp only [List.length_append]
      rcases List.mem_cons.1 hv with heq | hv
      · cases heq
        omega
      · have := ih hv
        omega

/-! ## Scanning a printed value -/

/-- The scanner takes the value from its spelled form and leaves what follows. -/
def Takes (value : Scanner) (e : CodePoint → Text) (v : Json) : Prop :=
  ∀ rest, EndsNumber rest → value (v.print.flatMap e ++ rest) = .ok (v, rest)

/-- A literal of the printer is spelled as it is. -/
theorem IsSpelling.flatMap_text (he : IsSpelling e) (s : String) (hs : isAscii s = true) :
    (AgentWorkshop.text s).flatMap e = AgentWorkshop.text s :=
  he.flatMap_ascii (ascii_text s hs)

theorem scanString_spelled (he : IsSpelling e) (ht : ReadsBack e t) :
    (printString t).flatMap e ++ rest =
        ('"' : CodePoint) :: ((t.flatMap printPoint).flatMap e ++ ('"' : CodePoint) :: rest) ∧
      scanString ((t.flatMap printPoint).flatMap e ++ ('"' : CodePoint) :: rest) =
        some (t, rest) := by
  refine ⟨?_, ht rest⟩
  rw [printString, List.flatMap_append, List.flatMap_append, he.flatMap_text _ (by decide)]
  simp [AgentWorkshop.text]

theorem starts_printElements (vs : List Json) (hv : Starts v.print) :
    Starts (printElements (v :: vs)) := by
  cases vs with
  | nil => rwa [printElements]
  | cons w vs =>
    rw [printElements, List.append_assoc]
    exact hv.append

section
variable {value : Scanner}

/-- No blank comes before a comma. -/
theorem skipSpace_comma (s : Text) : skipSpace ((',' : CodePoint) :: s) = (',' : CodePoint) :: s :=
  rfl

theorem scanElements_last (hv : value s = .ok (v, (']' : CodePoint) :: rest)) :
    scanElements value (fuel + 1) s = .ok ([v], rest) := by
  rw [scanElements, hv]
  rfl

theorem scanElements_more (hv : value s = .ok (v, (',' : CodePoint) :: (' ' : CodePoint) :: t))
    (ht : skipSpace t = t) (hvs : scanElements value fuel t = .ok (vs, rest)) :
    scanElements value (fuel + 1) s = .ok (v :: vs, rest) := by
  have hspace : skipSpace ((' ' : CodePoint) :: t) = t := ht
  rw [scanElements, hv]
  dsimp only [bind, Except.bind]
  rw [skipSpace_comma]
  dsimp only
  rw [if_neg (by decide), if_pos rfl, hspace, hvs]

/-- Elements are scanned up to the closing bracket. -/
theorem scanElements_spelled (he : IsSpelling e)
    (hvs : ∀ v ∈ vs, Starts v.print ∧ Takes value e v) (hne : vs ≠ [])
    (hfuel : vs.length ≤ fuel) :
    scanElements value fuel ((printElements vs).flatMap e ++ (']' : CodePoint) :: rest) =
      .ok (vs, rest) := by
  induction vs generalizing fuel with
  | nil => exact absurd rfl hne
  | cons v vs ih =>
    rw [List.forall_mem_cons] at hvs
    obtain ⟨⟨-, hv⟩, hvs⟩ := hvs
    obtain ⟨fuel, rfl⟩ : ∃ k, fuel = k + 1 := ⟨fuel - 1, by simp at hfuel; omega⟩
    cases vs with
    | nil => exact scanElements_last (hv _ (endsNumber_cons (by decide)))
    | cons w vs =>
      have hnext := ((starts_printElements vs (hvs w (by simp)).1).flatMap he).append
        (t := (']' : CodePoint) :: rest)
      have hrest := ih hvs (by simp) (by simp at hfuel ⊢; omega)
      rw [printElements, List.flatMap_append, List.flatMap_append, he.flatMap_text _ (by decide),
        List.append_assoc, List.append_assoc]
      exact scanElements_more (hv _ (endsNumber_cons (by decide))) hnext.skipSpace hrest

theorem scanKey_eq_ok {key : Text}
    (hkey : scanString s = some (key, (':' : CodePoint) :: (' ' : CodePoint) :: t))
    (ht : skipSpace t = t) : scanKey (('"' : CodePoint) :: s) = .ok (key, t) := by
  have hspace : skipSpace ((' ' : CodePoint) :: t) = t := ht
  rw [scanKey, if_pos rfl, hkey]
  change Except.ok (key, skipSpace ((' ' : CodePoint) :: t)) = _
  rw [hspace]

theorem scanMembers_last {key : Text} (hkey : scanKey s = .ok (key, t))
    (hv : value t = .ok (v, ('}' : CodePoint) :: rest)) :
    scanMembers value (fuel + 1) s = .ok ([(key, v)], rest) := by
  rw [scanMembers, hkey]
  dsimp only [bind, Except.bind]
  rw [hv]
  rfl

theorem scanMembers_more {key : Text} {t' : Text} (hkey : scanKey s = .ok (key, t))
    (hv : value t = .ok (v, (',' : CodePoint) :: (' ' : CodePoint) :: t'))
    (ht : skipSpace t' = t') (hms : scanMembers value fuel t' = .ok (ms, rest)) :
    scanMembers value (fuel + 1) s = .ok ((key, v) :: ms, rest) := by
  have hspace : skipSpace ((' ' : CodePoint) :: t') = t' := ht
  rw [scanMembers, hkey]
  dsimp only [bind, Except.bind]
  rw [hv]
  dsimp only
  rw [skipSpace_comma]
  dsimp only
  rw [if_neg (by decide), if_pos rfl, hspace, hms]

theorem printMembers_cons {k : Text} : printMembers ((k, v) :: ms) =
    printString k ++ (AgentWorkshop.text ": " ++ v.print) ++
      (if ms = [] then [] else AgentWorkshop.text ", " ++ printMembers ms) := by
  cases ms with
  | nil => simp [printMembers]
  | cons m ms => simp [printMembers]

theorem starts_printMembers (hms : ms ≠ []) : Starts (printMembers ms) := by
  cases ms with
  | nil => exact absurd rfl hms
  | cons m ms =>
    rw [printMembers_cons]
    exact starts_cons (by decide) (by decide) (by decide)

/-- Members are scanned up to the closing brace. -/
theorem scanMembers_spelled (he : IsSpelling e) (hkeys : ∀ m ∈ ms, ReadsBack e m.1)
    (hms : ∀ m ∈ ms, Starts m.2.print ∧ Takes value e m.2) (hne : ms ≠ [])
    (hfuel : ms.length ≤ fuel) :
    scanMembers value fuel ((printMembers ms).flatMap e ++ ('}' : CodePoint) :: rest) =
      .ok (ms, rest) := by
  induction ms generalizing fuel with
  | nil => exact absurd rfl hne
  | cons m ms ih =>
    obtain ⟨k, v⟩ := m
    rw [List.forall_mem_cons] at hkeys hms
    obtain ⟨hkey, hkeys⟩ := hkeys
    obtain ⟨⟨hstarts, hv⟩, hms⟩ := hms
    obtain ⟨fuel, rfl⟩ : ∃ k, fuel = k + 1 := ⟨fuel - 1, by simp at hfuel; omega⟩
    have hcolon := he.flatMap_text ": " (by decide)
    have hscan (after : Text) : scanKey ((printString k ++ (AgentWorkshop.text ": " ++
        v.print)).flatMap e ++ after) = .ok (k, v.print.flatMap e ++ after) := by
      rw [List.flatMap_append, List.flatMap_append, hcolon, List.append_assoc, List.append_assoc,
        (scanString_spelled he hkey).1]
      exact scanKey_eq_ok (hkey _) ((hstarts.flatMap he).append).skipSpace
    rw [printMembers_cons, List.flatMap_append, List.append_assoc]
    by_cases hlast : ms = []
    · rw [if_pos hlast, hlast]
      exact scanMembers_last (hscan _) (hv _ (endsNumber_cons (by decide)))
    · have hnext := ((starts_printMembers hlast).flatMap he).append
        (t := ('}' : CodePoint) :: rest)
      have hrest := ih hkeys hms hlast (by simp at hfuel; omega)
      have hcomma : (AgentWorkshop.text ", " ++ printMembers ms).flatMap e =
          AgentWorkshop.text ", " ++ (printMembers ms).flatMap e := by
        rw [List.flatMap_append, he.flatMap_text _ (by decide)]
      rw [if_neg hlast, hcomma, List.append_assoc (AgentWorkshop.text ", ")]
      exact scanMembers_more (hscan _) (hv _ (endsNumber_cons (by decide))) hnext.skipSpace hrest

end

/-! ## Objects -/

theorem put_of_not_mem {k : Text} (h : k ∉ ms.map Prod.fst) : put k v ms = ms ++ [(k, v)] := by
  induction ms with
  | nil => rfl
  | cons m ms ih =>
    obtain ⟨k', w⟩ := m
    rw [List.map_cons, List.mem_cons, not_or] at h
    rw [put, if_neg (Ne.symm h.1), ih h.2, List.cons_append]

/-- Members with distinct keys stay as they are. -/
theorem ofMembers_of_nodup (h : (ms.map Prod.fst).Nodup) : ofMembers ms = object ms := by
  have hfold (front : List (Text × Json)) (h : ((front ++ ms).map Prod.fst).Nodup) :
      ms.foldl (fun ms m => put m.1 m.2 ms) front = front ++ ms := by
    induction ms generalizing front with
    | nil => simp
    | cons m ms ih =>
      have hm : m.1 ∉ front.map Prod.fst := by
        rw [List.map_append, List.map_cons, List.nodup_append] at h
        exact fun hmem => h.2.2 _ hmem _ (by simp) rfl
      have hnext : front ++ m :: ms = front ++ [m] ++ ms := by simp
      rw [List.foldl_cons, put_of_not_mem hm, hnext]
      rw [hnext] at h
      exact ih (by simp at *; grind) _ h
  rw [ofMembers, hfold [] h, List.nil_append]

theorem lookup_put (key k : Text) (v : Json) (ms : List (Text × Json)) :
    (put k v ms).lookup key = if key = k then some v else ms.lookup key := by
  induction ms with
  | nil =>
    rw [put, List.lookup_cons, List.lookup_nil]
    split <;> simp_all
  | cons m ms ih =>
    rw [put]
    split <;> simp only [List.lookup_cons, ih] <;> grind

/-- **Of members with one key the last gives the value.** -/
theorem member?_ofMembers (key : Text) (ms : List (Text × Json)) :
    (ofMembers ms).member? key = ms.reverse.lookup key := by
  have hfold (front : List (Text × Json)) :
      (ms.foldl (fun ms m => put m.1 m.2 ms) front).lookup key =
        (ms.reverse.lookup key).or (front.lookup key) := by
    induction ms generalizing front with
    | nil => rfl
    | cons m ms ih =>
      rw [List.foldl_cons, ih, lookup_put, List.reverse_cons, List.lookup_append, Option.or_assoc,
        List.lookup_cons]
      by_cases hkey : key = m.1 <;> simp [hkey, beq_false_of_ne]
  rw [ofMembers, member?, hfold, List.lookup_nil, Option.or_none]

/-! ## Values -/

theorem scanValue_eq (fuel depth : Nat) :
    ∃ inner?, scanValue fuel depth = scanWith inner? fuel := by
  cases depth with
  | zero => exact ⟨none, rfl⟩
  | succ depth => exact ⟨some (scanValue fuel depth), rfl⟩

/-- What opens neither a string nor a container is a word or a number. -/
theorem scanValue_atom {c : CodePoint} (hc : c ≠ '"' ∧ c ≠ '[' ∧ c ≠ '\x7b') :
    scanValue fuel depth (c :: s) = scanAtom (c :: s) := by
  obtain ⟨inner?, h⟩ := scanValue_eq fuel depth
  rw [h, scanWith.eq_def]
  exact (if_neg hc.1).trans ((if_neg hc.2.1).trans (if_neg hc.2.2))

theorem scanValue_ofInt {n : Int} :
    scanValue fuel depth (ofInt n ++ rest) = scanAtom (ofInt n ++ rest) := by
  have hdigit : ∀ d < 10, hexDigit d ≠ '"' ∧ hexDigit d ≠ '[' ∧ hexDigit d ≠ '\x7b' := by decide
  cases n with
  | ofNat n =>
    obtain ⟨d, digits, hdigits, hd, -⟩ := ofNat_cases n
    rw [ofInt, hdigits]
    exact scanValue_atom (hdigit d hd)
  | negSucc n => exact scanValue_atom (by decide)

theorem scanValue_string (hs : scanString s = some (t, rest)) :
    scanValue fuel depth (('"' : CodePoint) :: s) = .ok (string t, rest) := by
  obtain ⟨inner?, h⟩ := scanValue_eq fuel depth
  rw [h, scanWith.eq_def]
  simp only [if_true, hs]

/-- A bracket opens an array, whose first element decides that it is not empty. -/
theorem scanValue_array (hs : Starts s)
    (hvs : scanElements (scanValue fuel depth) fuel s = .ok (vs, rest)) :
    scanValue fuel (depth + 1) (('[' : CodePoint) :: s) = .ok (array vs, rest) := by
  have hskip := hs.skipSpace
  obtain ⟨c, s', rfl, -, -, hbracket, -⟩ := hs
  change scanArray (scanValue fuel depth) fuel (c :: s') = _
  rw [scanArray, hskip]
  simp only [if_neg hbracket, hvs]
  rfl

/-- A brace opens an object, whose first sign decides that it is not empty. -/
theorem scanValue_object (hs : Starts s)
    (hms : scanMembers (scanValue fuel depth) fuel s = .ok (ms, rest)) :
    scanValue fuel (depth + 1) (('\x7b' : CodePoint) :: s) = .ok (ofMembers ms, rest) := by
  have hskip := hs.skipSpace
  obtain ⟨c, s', rfl, -, -, -, hbrace⟩ := hs
  change scanObject (scanValue fuel depth) fuel (c :: s') = _
  rw [scanObject, hskip]
  simp only [if_neg hbrace, hms]
  rfl

/-- **An exact value is scanned from its spelled form**, with as much fuel as it has code
points when it is printed. -/
theorem Exact.takes (he : IsSpelling e) (h : Exact (ReadsBack e) depth v)
    (hfuel : v.print.length ≤ fuel) : Takes (scanValue fuel depth) e v := by
  induction h with
  | null =>
    intro rest _
    rw [print, he.flatMap_text _ (by decide), ← scanAtom_null]
    exact scanValue_atom (by decide)
  | @boolean _ b =>
    intro rest _
    rw [print, he.flatMap_text _ (by cases b <;> decide), ← scanAtom_boolean]
    cases b <;> exact scanValue_atom (by decide)
  | @integer _ n digits =>
    intro rest hrest
    rw [print, he.flatMap_ascii (ascii_ofInt n), ← scanAtom_ofInt digits hrest]
    exact scanValue_ofInt
  | string text =>
    intro rest _
    rw [print, (scanString_spelled he text).1]
    exact scanValue_string (text rest)
  | @array depth vs elements ih =>
    intro rest _
    rw [print, List.length_append, List.length_append] at hfuel
    rw [print, List.flatMap_append, List.flatMap_append, he.flatMap_text _ (by decide),
      he.flatMap_text _ (by decide), List.append_assoc, List.append_assoc]
    cases vs with
    | nil => rfl
    | cons v vs =>
      have hstarts (w : Json) (hw : w ∈ v :: vs) : Starts w.print := (elements w hw).starts
      have hlength := length_le_printElements hstarts
      have htakes (w : Json) (hw : w ∈ v :: vs) : Takes (scanValue fuel depth) e w := by
        have := length_print_le_elements hw
        exact ih w hw (by omega)
      have hfirst := ((starts_printElements vs (hstarts v (by simp))).flatMap he).append
        (t := (']' : CodePoint) :: rest)
      exact scanValue_array hfirst
        (scanElements_spelled he (fun w hw => ⟨hstarts w hw, htakes w hw⟩) (by simp) (by omega))
  | @object depth ms distinct keys values ih =>
    intro rest _
    rw [print, List.length_append, List.length_append] at hfuel
    rw [print, List.flatMap_append, List.flatMap_append, he.flatMap_text _ (by decide),
      he.flatMap_text _ (by decide), List.append_assoc, List.append_assoc,
      ← ofMembers_of_nodup distinct]
    by_cases hne : ms = []
    · rw [hne]
      rfl
    · have hlength := length_le_printMembers ms
      have htakes (m : Text × Json) (hm : m ∈ ms) : Takes (scanValue fuel depth) e m.2 := by
        have := length_print_le_members hm
        exact ih m hm (by omega)
      have hfirst := ((starts_printMembers hne).flatMap he).append
        (t := ('\x7d' : CodePoint) :: rest)
      exact scanValue_object hfirst
        (scanMembers_spelled he keys (fun m hm => ⟨(values m hm).starts, htakes m hm⟩) hne
          (by omega))

/-! ## Whole texts -/

/-- **What is printed in any spelling is read back**, if every string of it can be. -/
theorem read_spelled (he : IsSpelling e) (h : Exact (ReadsBack e) nestingLimit v) :
    read (v.print.flatMap e) = .ok v := by
  have hstarts : Starts (v.print.flatMap e) := h.starts.flatMap he
  have htakes := h.takes he (he.length_le v.print) [] endsNumber_nil
  rw [List.append_nil] at htakes
  rw [read, hstarts.skipSpace, htakes]
  rfl

/-- Leaving every code point as it is is a spelling, in which every text can be read back. -/
theorem isSpelling_self : IsSpelling fun c => [c] :=
  ⟨fun _ _ => rfl, fun _ => List.cons_ne_nil _ _⟩

theorem exists_signs (t : Text) :
    ∃ signs, Spells (t.flatMap printPoint) signs ∧ joinSigns signs = t := by
  induction t with
  | nil => exact ⟨[], spells_nil, rfl⟩
  | cons c t ih =>
    obtain ⟨signs, hsigns, hjoin⟩ := ih
    obtain ⟨sign, hsign, rfl | ⟨rfl, hc⟩⟩ := spells_printPoint c
    · exact ⟨_, hsign.append hsigns, by rw [List.singleton_append, joinSigns_plain, hjoin]⟩
    · refine ⟨_, hsign.append hsigns, ?_⟩
      rw [List.singleton_append, joinSigns_numbered, hjoin]
      rintro d after - ⟨hhigh, -⟩
      simp only [CodePoint.isHighSurrogate, Bool.and_eq_true, decide_eq_true_eq] at hhigh
      omega

theorem readsBack_self (t : Text) : ReadsBack (fun c => [c]) t := by
  intro rest
  obtain ⟨signs, hsigns, hjoin⟩ := exists_signs t
  rw [List.flatMap_singleton', scanString_of_spells hsigns, hjoin]

/-- **Exact data that is printed and read is the same**, whatever its strings hold. -/
theorem read_print (h : Exact p nestingLimit v) : read v.print = .ok v := by
  have hread := read_spelled isSpelling_self (h.imp fun t _ => readsBack_self t)
  rwa [List.flatMap_singleton'] at hread

end Json

end AgentWorkshop
