import Erc4337.Json.Parse
/-! Documents of strings and objects read back from their compact text. A string none of whose
characters needs an escape is written between two quotes as it stands, so the reader takes it
back character by character; an object whose keys are such strings and whose values read back,
written with commas between its members, is read back to the same object, members in the same
order, as long as it is not nested deeper than the reader allows. -/
namespace Erc4337.Json

def Plain (html : Bool) (s : String) : Prop := ∀ c ∈ s.toList, escapeChar html c = [c]

theorem plainChar {html : Bool} {c : Char} (plain : escapeChar html c = [c]) :
    c ≠ '"' ∧ c ≠ '\\' ∧ ¬ c.toNat < 0x20 := by
  unfold escapeChar at plain
  repeat' split at plain
  all_goals simp_all

theorem plainOfAll {html : Bool} {s : String} (all : (s.toList.all fun c => escapeChar html c == [c]) = true) :
    Plain html s := by
  intro c mem
  simpa using List.all_eq_true.mp all c mem

theorem plainPrefixed {html : Bool} {pre : String} {cs : List Char} (prefixPlain : Plain html pre)
    (each : ∀ c ∈ cs, escapeChar html c = [c]) : Plain html (pre ++ String.ofList cs) := by
  intro c mem
  rw [String.toList_append, String.toList_ofList] at mem
  rcases List.mem_append.mp mem with inPrefix | inDigits
  · exact prefixPlain c inPrefix
  · exact each c inDigits

theorem quotePlain {html : Bool} {s : String} (plain : Plain html s) :
    (quote html s).toList = '"' :: s.toList ++ ['"'] := by
  have same : ∀ cs : List Char, (∀ c ∈ cs, escapeChar html c = [c]) →
      cs.flatMap (escapeChar html) = cs := by
    intro cs
    induction cs with
    | nil => simp
    | cons c cs ih => intro each; simp [each c List.mem_cons_self, ih (fun d mem => each d (List.mem_cons_of_mem c mem))]
  rw [quote, String.toList_ofList, same s.toList plain]

theorem stringBodyPlain {cs : List Char} {html : Bool} (plain : ∀ c ∈ cs, escapeChar html c = [c])
    (acc rest : List Char) {fuel : Nat} (enough : cs.length < fuel) :
    stringBody fuel acc (cs ++ '"' :: rest) = .ok (String.ofList (acc.reverse ++ cs), rest) := by
  induction cs generalizing acc fuel with
  | nil =>
    obtain ⟨f, rfl⟩ : ∃ f, fuel = f + 1 := ⟨fuel - 1, by simp at enough; omega⟩
    simp [stringBody]
  | cons c cs ih =>
    obtain ⟨f, rfl⟩ : ∃ f, fuel = f + 1 := ⟨fuel - 1, by simp at enough; omega⟩
    obtain ⟨notQuote, notBackslash, notControl⟩ := plainChar (plain c List.mem_cons_self)
    simp only [List.cons_append, stringBody, if_neg notQuote, if_neg notBackslash, if_neg notControl]
    rw [ih (fun d mem => plain d (List.mem_cons_of_mem c mem)) (c :: acc) (by simp at enough; omega)]
    simp

theorem parseStringPlain {html : Bool} {s : String} (plain : Plain html s) (rest : List Char) :
    parseString (s.toList ++ '"' :: rest) = .ok (s, rest) := by
  rw [parseString, stringBodyPlain plain [] rest (by rw [List.length_append]; omega)]
  simp

theorem parseValueString {html : Bool} {s : String} (plain : Plain html s) (fuel depth : Nat)
    (rest : List Char) :
    parseValue (fuel + 1) depth ('"' :: (s.toList ++ '"' :: rest)) = .ok (.str s, rest) := by
  simp [parseValue, skipBlank, isBlank, parseStringPlain plain]

def ReadsBack (html : Bool) (depth : Nat) (j : Json) : Prop :=
  ∀ fuel rest, (render html j).toList.length < fuel →
    parseValue fuel depth ((render html j).toList ++ rest) = .ok (j, rest)

theorem readsBackString {html : Bool} {s : String} (plain : Plain html s) (depth : Nat) :
    ReadsBack html depth (.str s) := by
  intro fuel rest enough
  obtain ⟨f, rfl⟩ : ∃ f, fuel = f + 1 := ⟨fuel - 1, by omega⟩
  rw [render, quotePlain plain]
  simpa using parseValueString plain f depth rest

def memberChars (html : Bool) (m : String × Json) : List Char :=
  '"' :: m.1.toList ++ '"' :: ':' :: (render html m.2).toList

theorem joinedMembers {α : Type} (f : α → List Char) (m : α) (ms : List α) :
    [','].intercalate ((m :: ms).map f) = f m ++ ms.flatMap fun m' => ',' :: f m' := by
  induction ms generalizing m with
  | nil => simp
  | cons m' ms ih =>
    rw [List.map_cons, List.map_cons, List.intercalate_cons_cons, ← List.map_cons, ih]
    simp

theorem renderObject {html : Bool} {ms : List (String × Json)} (plain : ∀ m ∈ ms, Plain html m.1) :
    (render html (.obj ms)).toList = '\x7b' :: ([','].intercalate (ms.map (memberChars html)) ++ ['\x7d']) := by
  have members : (renderMembers html ms).map String.toList = ms.map (memberChars html) := by
    induction ms with
    | nil => rfl
    | cons m ms ih =>
      obtain ⟨k, v⟩ := m
      simp [renderMembers, quotePlain (plain (k, v) List.mem_cons_self), memberChars,
        ih (fun n mem => plain n (List.mem_cons_of_mem _ mem))]
  simp [render, String.toList_intercalate, members]

theorem parseMembersBack {html : Bool} {depth : Nat} (m : String × Json) (ms : List (String × Json))
    (acc : List (String × Json)) (fuel : Nat) (rest : List Char)
    (each : ∀ m' ∈ m :: ms, Plain html m'.1 ∧ ReadsBack html depth m'.2)
    (enough : (memberChars html m ++ ms.flatMap fun m' => ',' :: memberChars html m').length < fuel) :
    parseMembers fuel depth acc
        ((memberChars html m).tail ++ (ms.flatMap fun m' => ',' :: memberChars html m') ++ '\x7d' :: rest) =
      .ok (.obj (acc.reverse ++ m :: ms), rest) := by
  induction ms generalizing m acc fuel with
  | nil =>
    obtain ⟨plainKey, value⟩ := each m List.mem_cons_self
    obtain ⟨f, rfl⟩ : ∃ f, fuel = f + 1 := ⟨fuel - 1, by simp [memberChars] at enough; omega⟩
    have read := value f ('\x7d' :: rest) (by simp [memberChars] at enough; omega)
    simp only [memberChars, List.tail_cons, List.flatMap_nil, List.append_nil, List.append_assoc,
      List.cons_append] at read ⊢
    rw [parseMembers]
    simp [parseStringPlain plainKey, skipBlank, isBlank, read]
  | cons m' ms ih =>
    obtain ⟨plainKey, value⟩ := each m List.mem_cons_self
    obtain ⟨f, rfl⟩ : ∃ f, fuel = f + 1 := ⟨fuel - 1, by simp [memberChars] at enough; omega⟩
    let later := (memberChars html m').tail ++ (ms.flatMap fun m' => ',' :: memberChars html m') ++ '\x7d' :: rest
    have shape : (memberChars html m).tail ++ ((m' :: ms).flatMap fun m' => ',' :: memberChars html m') ++
        '\x7d' :: rest = m.1.toList ++ '"' :: ':' :: ((render html m.2).toList ++ ',' :: '"' :: later) := by
      simp [later, memberChars]
    have read := value f (',' :: '"' :: later) (by simp [memberChars] at enough; omega)
    rw [shape, parseMembers]
    simp [parseStringPlain plainKey, skipBlank, isBlank, read]
    have next := ih m' (m :: acc) f (fun n mem => each n (List.mem_cons_of_mem m mem))
      (by simp [memberChars] at enough ⊢; omega)
    simpa [later] using next

theorem readsBackObject {html : Bool} {depth : Nat} {ms : List (String × Json)}
    (each : ∀ m ∈ ms, Plain html m.1 ∧ ReadsBack html (depth + 1) m.2) (room : depth + 1 ≤ maxDepth) :
    ReadsBack html depth (.obj ms) := by
  intro fuel rest enough
  rw [renderObject (fun m mem => (each m mem).1)] at enough ⊢
  obtain ⟨f, rfl⟩ : ∃ f, fuel = f + 1 := ⟨fuel - 1, by simp at enough; omega⟩
  have deep : ¬ depth + 1 > maxDepth := by omega
  cases ms with
  | nil => simp [parseValue, skipBlank, isBlank, deep]
  | cons m ms =>
    rw [joinedMembers] at enough ⊢
    have opens : memberChars html m = '"' :: (memberChars html m).tail := rfl
    rw [opens]
    simp [parseValue, skipBlank, isBlank, deep]
    simpa using parseMembersBack m ms [] f rest each (by simp at enough ⊢; omega)

theorem parseRendered {html : Bool} {j : Json} (reads : ReadsBack html 0 j) : parse (render html j) = .ok j := by
  have read := reads ((render html j).toList.length + 1) [] (by omega)
  rw [List.append_nil] at read
  simp [parse, read, skipBlank]

def strings (ms : List (String × String)) : Json := .obj (ms.map fun m => (m.1, .str m.2))

theorem parseStrings {html : Bool} {ms : List (String × String)}
    (plain : ∀ m ∈ ms, Plain html m.1 ∧ Plain html m.2) :
    parse (render html (strings ms)) = .ok (strings ms) := by
  refine parseRendered (readsBackObject (fun m mem => ?_) (by decide))
  obtain ⟨⟨k, v⟩, inMs, rfl⟩ := List.mem_map.mp mem
  exact ⟨(plain (k, v) inMs).1, readsBackString (plain (k, v) inMs).2 1⟩

end Erc4337.Json
