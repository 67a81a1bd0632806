import TraxOs.Theory.Json
import TraxOs.Theory.Sequences

/-!
# The text of a JSON value determines it

A compact rendering can be read in one way only. Each character inside quotation marks
is read back from its escape, a number ends where its digits end, and the first
character of a value says which kind of value it is. So equal texts render equal
values, also in front of further text, and this carries the induction through arrays
and objects.

A writer that sorts the members of an object by name renders the same text for every
order in which the members were given.
-/

namespace TraxOs.Theory

namespace Json

/-- The value of a lower-case hexadecimal digit. -/
def hexDigit (digit : Char) : Nat :=
  if digit.isDigit then digit.toNat - 48 else digit.toNat - 87

/-- The character that an escaped letter stands for. -/
def escaped (letter : Char) : Char :=
  if letter = 'n' then '\n'
  else if letter = 'r' then '\r'
  else if letter = 't' then '\t'
  else if letter = 'b' then Char.ofNat 8
  else if letter = 'f' then Char.ofNat 12
  else letter

/-- Read one character of a quoted text. -/
def unescape : List Char → Option (Char × List Char)
  | '\\' :: 'u' :: _ :: _ :: high :: low :: rest =>
    some (Char.ofNat (16 * hexDigit high + hexDigit low), rest)
  | '\\' :: letter :: rest => some (escaped letter, rest)
  | letter :: rest => some (letter, rest)
  | [] => none

/-- A hexadecimal digit has its value. -/
theorem hexDigit_digitChar : ∀ value < 16, hexDigit (Nat.digitChar value) = value := by decide

/-- Each character is read back from its escape. -/
theorem unescape_escape (character : Char) (rest : List Char) :
    unescape (escape character ++ rest) = some (character, rest) := by
  unfold escape
  split
  · next same => rw [same]; rfl
  split
  · next same => rw [same]; rfl
  split
  · next same => rw [same]; rfl
  split
  · next same => rw [same]; rfl
  split
  · next same => rw [same]; rfl
  split
  · next same =>
    have back : Char.ofNat 8 = character := by rw [← same, Char.ofNat_toNat]
    rw [← back]
    rfl
  split
  · next same =>
    have back : Char.ofNat 12 = character := by rw [← same, Char.ofNat_toNat]
    rw [← back]
    rfl
  split
  · next control =>
    have high := hexDigit_digitChar (character.toNat / 16) (by omega)
    have low := hexDigit_digitChar (character.toNat % 16) (Nat.mod_lt _ (by omega))
    simp only [List.cons_append, List.nil_append, unescape, high, low, Nat.div_add_mod,
      Char.ofNat_toNat]
  · next plain _ _ _ _ _ _ =>
    cases rest with
    | nil => simp [unescape]
    | cons next rest => simp [unescape, plain]

/-- No escape begins like the end of a text. -/
theorem escape_starts (character : Char) :
    ∃ head rest, escape character = head :: rest ∧ head ≠ '"' := by
  unfold escape
  split_ifs with quotes
  all_goals first
    | exact ⟨_, _, rfl, by decide⟩
    | exact ⟨_, _, rfl, quotes⟩

/-- Quoted texts end where their quotation marks end. -/
theorem quoted_injective (left right : List Char) (afterLeft afterRight : List Char)
    (same : left.flatMap escape ++ '"' :: afterLeft = right.flatMap escape ++ '"' :: afterRight) :
    left = right ∧ afterLeft = afterRight := by
  induction left generalizing right with
  | nil =>
    cases right with
    | nil =>
      simp only [List.flatMap_nil, List.nil_append, List.cons.injEq, true_and] at same
      exact ⟨rfl, same⟩
    | cons letter letters =>
      obtain ⟨head, rest, starts, other⟩ := escape_starts letter
      rw [List.flatMap_cons, starts] at same
      simp only [List.flatMap_nil, List.nil_append, List.cons_append, List.cons.injEq] at same
      exact absurd same.1.symm other
  | cons letter letters inductionHypothesis =>
    cases right with
    | nil =>
      obtain ⟨head, rest, starts, other⟩ := escape_starts letter
      rw [List.flatMap_cons, starts] at same
      simp only [List.flatMap_nil, List.nil_append, List.cons_append, List.cons.injEq] at same
      exact absurd same.1 other
    | cons other others =>
      rw [List.flatMap_cons, List.flatMap_cons, List.append_assoc, List.append_assoc] at same
      have read := congrArg unescape same
      rw [unescape_escape, unescape_escape, Option.some.injEq, Prod.mk.injEq] at read
      obtain ⟨rfl, later⟩ := read
      obtain ⟨rfl, after⟩ := inductionHypothesis others later
      exact ⟨rfl, after⟩

/-- The kinds of values that the first character of a text tells apart. -/
inductive Kind where
  | null
  | truth
  | falsehood
  | number
  | text
  | array
  | object
deriving DecidableEq

/-- The kind of a value. -/
def kind : Json → Kind
  | .null => .null
  | .bool true => .truth
  | .bool false => .falsehood
  | .number _ => .number
  | .text _ => .text
  | .array _ => .array
  | .object _ => .object

/-- The kind of value that a text begins. -/
def kindOf (head : Char) : Option Kind :=
  if head = 'n' then some .null
  else if head = 't' then some .truth
  else if head = 'f' then some .falsehood
  else if head = '"' then some .text
  else if head = '[' then some .array
  else if head = '{' then some .object
  else if head = '-' ∨ head.isDigit = true then some .number
  else none

/-- A digit begins a number. -/
theorem kindOf_digit (head : Char) (digit : head.isDigit = true) : kindOf head = some .number := by
  have other : ∀ letter : Char, letter.isDigit = false → head ≠ letter := by
    rintro letter plain rfl
    rw [digit] at plain
    cases plain
  simp only [kindOf, other 'n' rfl, other 't' rfl, other 'f' rfl, other '"' rfl, other '[' rfl,
    other '{' rfl, digit, if_false, or_true, if_true]

/-- The digits of a number. -/
theorem digits_isDigit (magnitude : Nat) (digit : Char) (member : digit ∈ Nat.toDigits 10 magnitude) :
    digit.isDigit = true :=
  Nat.isDigit_of_mem_toDigits (by decide) (by decide) member

/-- There is at least one. -/
theorem digits_cons (magnitude : Nat) :
    ∃ head rest, Nat.toDigits 10 magnitude = head :: rest ∧ head.isDigit = true := by
  cases shown : Nat.toDigits 10 magnitude with
  | nil => exact absurd shown Nat.toDigits_ne_nil
  | cons head rest =>
    exact ⟨head, rest, rfl, digits_isDigit magnitude head (shown ▸ List.mem_cons_self)⟩

/-- The first character of a text says what kind of value it is. -/
theorem render_kind (value : Json) :
    ∃ head rest, value.render = head :: rest ∧ kindOf head = some value.kind := by
  cases value with
  | null => exact ⟨_, _, rfl, by decide⟩
  | bool value => cases value <;> exact ⟨_, _, rfl, by decide⟩
  | number value =>
    cases value with
    | ofNat magnitude =>
      obtain ⟨head, rest, shown, digit⟩ := digits_cons magnitude
      exact ⟨head, rest, shown, kindOf_digit head digit⟩
    | negSucc magnitude => exact ⟨_, _, rfl, rfl⟩
  | text value => exact ⟨_, _, rfl, rfl⟩
  | array items => exact ⟨_, _, by rw [render], rfl⟩
  | object members => exact ⟨_, _, by rw [render], rfl⟩

/-- The text goes on with something that belongs to no number. -/
def Delimited (rest : List Char) : Prop := ∀ head ∈ rest.head?, head.isDigit = false

/-- Runs of digits end where something else begins. -/
theorem digits_injective (left right : List Char) (afterLeft afterRight : List Char)
    (leftDigits : ∀ digit ∈ left, digit.isDigit = true)
    (rightDigits : ∀ digit ∈ right, digit.isDigit = true)
    (leftEnds : Delimited afterLeft) (rightEnds : Delimited afterRight)
    (same : left ++ afterLeft = right ++ afterRight) : left = right ∧ afterLeft = afterRight := by
  induction left generalizing right with
  | nil =>
    cases right with
    | nil => exact ⟨rfl, same⟩
    | cons digit digits =>
      simp only [List.nil_append, List.cons_append] at same
      have plain := leftEnds digit (by rw [same]; rfl)
      rw [rightDigits digit List.mem_cons_self] at plain
      cases plain
  | cons digit digits inductionHypothesis =>
    cases right with
    | nil =>
      simp only [List.nil_append, List.cons_append] at same
      have plain := rightEnds digit (by rw [← same]; rfl)
      rw [leftDigits digit List.mem_cons_self] at plain
      cases plain
    | cons other others =>
      simp only [List.cons_append, List.cons.injEq] at same
      obtain ⟨rfl, later⟩ := same
      obtain ⟨rfl, after⟩ := inductionHypothesis others
        (fun digit member => leftDigits digit (List.mem_cons_of_mem _ member))
        (fun digit member => rightDigits digit (List.mem_cons_of_mem _ member)) later
      exact ⟨rfl, after⟩

/-- A number is determined by its digits. -/
theorem toDigits_injective (left right : Nat)
    (same : Nat.toDigits 10 left = Nat.toDigits 10 right) : left = right := by
  have read := congrArg (fun digits => Nat.ofDigitChars 10 digits 0) same
  simpa only [Nat.ofDigitChars_ten_toDigits] using read

/-- Numbers end where their digits end. -/
theorem decimal_injective (left right : Int) (afterLeft afterRight : List Char)
    (leftEnds : Delimited afterLeft) (rightEnds : Delimited afterRight)
    (same : decimal left ++ afterLeft = decimal right ++ afterRight) :
    left = right ∧ afterLeft = afterRight := by
  have unsigned : ∀ (magnitude : Nat) (rest after : List Char),
      Nat.toDigits 10 magnitude ++ rest ≠ '-' :: after := by
    intro magnitude rest after clash
    obtain ⟨head, digits, shown, digit⟩ := digits_cons magnitude
    rw [shown, List.cons_append, List.cons.injEq] at clash
    rw [clash.1] at digit
    exact absurd digit (by decide)
  cases left with
  | ofNat magnitude =>
    cases right with
    | ofNat other =>
      obtain ⟨digits, after⟩ := digits_injective _ _ afterLeft afterRight
        (digits_isDigit magnitude) (digits_isDigit other) leftEnds rightEnds same
      rw [toDigits_injective magnitude other digits]
      exact ⟨rfl, after⟩
    | negSucc other => exact absurd same (unsigned magnitude afterLeft _)
  | negSucc magnitude =>
    cases right with
    | ofNat other => exact absurd same.symm (unsigned other afterRight _)
    | negSucc other =>
      simp only [decimal, List.cons_append, List.cons.injEq, true_and] at same
      obtain ⟨digits, after⟩ := digits_injective _ _ afterLeft afterRight
        (digits_isDigit _) (digits_isDigit _) leftEnds rightEnds same
      have magnitudes := toDigits_injective _ _ digits
      rw [Nat.add_right_cancel magnitudes]
      exact ⟨rfl, after⟩

/-- What follows a value inside an array or an object delimits it. -/
theorem delimited_cons (head : Char) (rest : List Char) (plain : head.isDigit = false) :
    Delimited (head :: rest) := by
  intro first member
  cases member
  exact plain

/-- Equal texts begin with values of one kind. -/
theorem same_kind (left right : Json) (afterLeft afterRight : List Char)
    (same : left.render ++ afterLeft = right.render ++ afterRight) : left.kind = right.kind := by
  obtain ⟨head, rest, shown, first⟩ := render_kind left
  obtain ⟨other, others, displayed, second⟩ := render_kind right
  rw [shown, displayed, List.cons_append, List.cons_append, List.cons.injEq] at same
  rw [same.1, second] at first
  exact (Option.some.inj first).symm

/-- No value begins with the end of an array. -/
theorem render_open (value : Json) (rest after : List Char) :
    value.render ++ rest ≠ ']' :: after := by
  intro clash
  obtain ⟨head, letters, shown, kinds⟩ := render_kind value
  rw [shown, List.cons_append, List.cons.injEq] at clash
  rw [clash.1] at kinds
  cases kinds

/-- What follows an item: the end of the array or a comma and the other items. -/
def afterItem (items : List Json) (after : List Char) : List Char :=
  match items with
  | [] => ']' :: after
  | item :: items => ',' :: (renderItems (item :: items) ++ ']' :: after)

/-- What follows a member: the end of the object or a comma and the other members. -/
def afterMember (members : List (List Char × Json)) (after : List Char) : List Char :=
  match members with
  | [] => '}' :: after
  | member :: members => ',' :: (renderMembers (member :: members) ++ '}' :: after)

/-- The items of an array begin with the first one. -/
theorem renderItems_cons (item : Json) (items : List Json) (after : List Char) :
    renderItems (item :: items) ++ ']' :: after = item.render ++ afterItem items after := by
  cases items with
  | nil => rfl
  | cons next items => simp [renderItems, afterItem]

/-- The members of an object begin with the first one. -/
theorem renderMembers_cons (name : List Char) (value : Json) (members : List (List Char × Json))
    (after : List Char) :
    renderMembers ((name, value) :: members) ++ '}' :: after =
      '"' :: (name.flatMap escape ++ '"' :: ':' :: (value.render ++ afterMember members after)) := by
  cases members with
  | nil => simp [renderMembers, afterMember, quote]
  | cons next members => simp [renderMembers, afterMember, quote]

/-- Both delimit a value. -/
theorem afterItem_delimited (items : List Json) (after : List Char) :
    Delimited (afterItem items after) := by
  cases items with
  | nil => exact delimited_cons ']' _ rfl
  | cons item items => exact delimited_cons ',' _ rfl

theorem afterMember_delimited (members : List (List Char × Json)) (after : List Char) :
    Delimited (afterMember members after) := by
  cases members with
  | nil => exact delimited_cons '}' _ rfl
  | cons member members => exact delimited_cons ',' _ rfl

mutual

/-- The text of a value determines it, whatever follows. -/
theorem render_append : (left right : Json) → (afterLeft afterRight : List Char) →
    Delimited afterLeft → Delimited afterRight →
      left.render ++ afterLeft = right.render ++ afterRight → left = right ∧ afterLeft = afterRight
  | .null, right, afterLeft, afterRight, _, _, same => by
    have kinds := same_kind _ right afterLeft afterRight same
    cases right with
    | null => exact ⟨rfl, List.append_cancel_left same⟩
    | bool value => cases value <;> cases kinds
    | _ => cases kinds
  | .bool true, right, afterLeft, afterRight, _, _, same => by
    have kinds := same_kind _ right afterLeft afterRight same
    cases right with
    | bool value =>
      cases value with
      | true => exact ⟨rfl, List.append_cancel_left same⟩
      | false => cases kinds
    | _ => cases kinds
  | .bool false, right, afterLeft, afterRight, _, _, same => by
    have kinds := same_kind _ right afterLeft afterRight same
    cases right with
    | bool value =>
      cases value with
      | true => cases kinds
      | false => exact ⟨rfl, List.append_cancel_left same⟩
    | _ => cases kinds
  | .number left, right, afterLeft, afterRight, leftEnds, rightEnds, same => by
    have kinds := same_kind _ right afterLeft afterRight same
    cases right with
    | number right =>
      simp only [render] at same
      obtain ⟨rfl, after⟩ := decimal_injective left right _ _ leftEnds rightEnds same
      exact ⟨rfl, after⟩
    | bool value => cases value <;> cases kinds
    | _ => cases kinds
  | .text left, right, afterLeft, afterRight, _, _, same => by
    have kinds := same_kind _ right afterLeft afterRight same
    cases right with
    | text right =>
      simp only [render, quote, List.cons_append, List.append_assoc, List.nil_append,
        List.cons.injEq, true_and] at same
      obtain ⟨rfl, after⟩ := quoted_injective left right _ _ same
      exact ⟨rfl, after⟩
    | bool value => cases value <;> cases kinds
    | _ => cases kinds
  | .array left, right, afterLeft, afterRight, _, _, same => by
    have kinds := same_kind _ right afterLeft afterRight same
    cases right with
    | array right =>
      simp only [render, List.cons_append, List.append_assoc, List.nil_append, List.cons.injEq,
        true_and] at same
      obtain ⟨rfl, after⟩ := renderItems_append left right _ _ same
      exact ⟨rfl, after⟩
    | bool value => cases value <;> cases kinds
    | _ => cases kinds
  | .object left, right, afterLeft, afterRight, _, _, same => by
    have kinds := same_kind _ right afterLeft afterRight same
    cases right with
    | object right =>
      simp only [render, List.cons_append, List.append_assoc, List.nil_append, List.cons.injEq,
        true_and] at same
      obtain ⟨rfl, after⟩ := renderMembers_append left right _ _ same
      exact ⟨rfl, after⟩
    | bool value => cases value <;> cases kinds
    | _ => cases kinds

/-- The text of the items of an array determines them. -/
theorem renderItems_append : (left right : List Json) → (afterLeft afterRight : List Char) →
    renderItems left ++ ']' :: afterLeft = renderItems right ++ ']' :: afterRight →
      left = right ∧ afterLeft = afterRight
  | [], [], afterLeft, afterRight, same => by
    simp only [renderItems, List.nil_append, List.cons.injEq, true_and] at same
    exact ⟨rfl, same⟩
  | [], item :: items, afterLeft, afterRight, same => by
    rw [renderItems_cons, renderItems, List.nil_append] at same
    exact absurd same.symm (render_open item _ _)
  | item :: items, [], afterLeft, afterRight, same => by
    rw [renderItems_cons, renderItems, List.nil_append] at same
    exact absurd same (render_open item _ _)
  | item :: items, other :: others, afterLeft, afterRight, same => by
    rw [renderItems_cons, renderItems_cons] at same
    obtain ⟨rfl, later⟩ := render_append item other _ _ (afterItem_delimited items afterLeft)
      (afterItem_delimited others afterRight) same
    cases items with
    | nil =>
      cases others with
      | nil => exact ⟨rfl, (List.cons.inj later).2⟩
      | cons next others => exact absurd (List.cons.inj later).1 (by decide)
    | cons next items =>
      cases others with
      | nil => exact absurd (List.cons.inj later).1 (by decide)
      | cons another others =>
        obtain ⟨rest, after⟩ := renderItems_append (next :: items) (another :: others) _ _
          (List.cons.inj later).2
        rw [rest]
        exact ⟨rfl, after⟩

/-- The text of the members of an object determines them. -/
theorem renderMembers_append : (left right : List (List Char × Json)) →
    (afterLeft afterRight : List Char) →
      renderMembers left ++ '}' :: afterLeft = renderMembers right ++ '}' :: afterRight →
        left = right ∧ afterLeft = afterRight
  | [], [], afterLeft, afterRight, same => by
    simp only [renderMembers, List.nil_append, List.cons.injEq, true_and] at same
    exact ⟨rfl, same⟩
  | [], (name, value) :: members, afterLeft, afterRight, same => by
    rw [renderMembers_cons, renderMembers, List.nil_append] at same
    exact absurd (List.cons.inj same).1 (by decide)
  | (name, value) :: members, [], afterLeft, afterRight, same => by
    rw [renderMembers_cons, renderMembers, List.nil_append] at same
    exact absurd (List.cons.inj same).1 (by decide)
  | (name, value) :: members, (other, stored) :: others, afterLeft, afterRight, same => by
    rw [renderMembers_cons, renderMembers_cons] at same
    obtain ⟨rfl, named⟩ := quoted_injective name other _ _ (List.cons.inj same).2
    obtain ⟨rfl, later⟩ := render_append value stored _ _ (afterMember_delimited members afterLeft)
      (afterMember_delimited others afterRight) (List.cons.inj named).2
    cases members with
    | nil =>
      cases others with
      | nil => exact ⟨rfl, (List.cons.inj later).2⟩
      | cons next others => exact absurd (List.cons.inj later).1 (by decide)
    | cons next members =>
      cases others with
      | nil => exact absurd (List.cons.inj later).1 (by decide)
      | cons another others =>
        obtain ⟨rest, after⟩ := renderMembers_append (next :: members) (another :: others) _ _
          (List.cons.inj later).2
        rw [rest]
        exact ⟨rfl, after⟩

end

/-- Different values have different texts. -/
theorem render_injective (left right : Json) (same : left.render = right.render) : left = right :=
  (render_append left right [] [] (fun _ member => by cases member) (fun _ member => by cases member)
    (by rw [same])).1

/-! ## Sorted members -/

/-- The order of texts by their code points. -/
def precedes : List Char → List Char → Bool
  | [], _ => true
  | _ :: _, [] => false
  | letter :: letters, other :: others =>
    letter.toNat < other.toNat || (letter.toNat == other.toNat && precedes letters others)

/-- The order of members by their names. -/
def byName (left right : List Char × Json) : Bool := precedes left.1 right.1

/-- It is a total order. -/
theorem precedes_total (left right : List Char) :
    precedes left right = true ∨ precedes right left = true := by
  induction left generalizing right with
  | nil => exact Or.inl rfl
  | cons letter letters inductionHypothesis =>
    cases right with
    | nil => exact Or.inr rfl
    | cons other others =>
      simp only [precedes, Bool.or_eq_true, Bool.and_eq_true, decide_eq_true_eq, beq_iff_eq]
      rcases Nat.lt_trichotomy letter.toNat other.toNat with less | same | more
      · exact Or.inl (Or.inl less)
      · rcases inductionHypothesis others with before | after
        · exact Or.inl (Or.inr ⟨same, before⟩)
        · exact Or.inr (Or.inr ⟨same.symm, after⟩)
      · exact Or.inr (Or.inl more)

theorem precedes_trans (first second third : List Char) (before : precedes first second = true)
    (after : precedes second third = true) : precedes first third = true := by
  induction first generalizing second third with
  | nil => rfl
  | cons letter letters inductionHypothesis =>
    cases second with
    | nil => cases before
    | cons other others =>
      cases third with
      | nil => cases after
      | cons last rest =>
        simp only [precedes, Bool.or_eq_true, Bool.and_eq_true, decide_eq_true_eq, beq_iff_eq]
          at before after ⊢
        rcases before with less | ⟨same, earlier⟩
        · rcases after with more | ⟨alike, _⟩
          · exact Or.inl (by omega)
          · exact Or.inl (by omega)
        · rcases after with more | ⟨alike, later⟩
          · exact Or.inl (by omega)
          · exact Or.inr ⟨by omega, inductionHypothesis others rest earlier later⟩

theorem precedes_antisymm (left right : List Char) (before : precedes left right = true)
    (after : precedes right left = true) : left = right := by
  induction left generalizing right with
  | nil =>
    cases right with
    | nil => rfl
    | cons other others => cases after
  | cons letter letters inductionHypothesis =>
    cases right with
    | nil => cases before
    | cons other others =>
      simp only [precedes, Bool.or_eq_true, Bool.and_eq_true, decide_eq_true_eq, beq_iff_eq]
        at before after
      have alike : letter.toNat = other.toNat := by omega
      rcases before with less | ⟨_, earlier⟩
      · omega
      rcases after with more | ⟨_, later⟩
      · omega
      rw [Char.toNat_inj.mp alike, inductionHypothesis others earlier later]

theorem byName_total : TotalComparison byName where
  total left right := precedes_total left.1 right.1
  trans first second third := precedes_trans first.1 second.1 third.1

mutual

/-- A value whose objects list their members by name, at every depth. -/
def sortKeys : Json → Json
  | .null => .null
  | .bool value => .bool value
  | .number value => .number value
  | .text value => .text value
  | .array items => .array (sortItems items)
  | .object members => .object (sortBy byName (sortMembers members))

/-- The items of an array, each of them sorted. -/
def sortItems : List Json → List Json
  | [] => []
  | item :: items => item.sortKeys :: sortItems items

/-- The members of an object, their values sorted. -/
def sortMembers : List (List Char × Json) → List (List Char × Json)
  | [] => []
  | (name, value) :: members => (name, value.sortKeys) :: sortMembers members

end

/-- The members are sorted one by one. -/
theorem sortMembers_eq (members : List (List Char × Json)) :
    sortMembers members = members.map fun member => (member.1, member.2.sortKeys) := by
  induction members with
  | nil => rfl
  | cons member members inductionHypothesis => rw [sortMembers, inductionHypothesis, List.map_cons]

/-- An object is sorted in one way, in whatever order its members were given. -/
theorem sortKeys_object (given sorted : List (List Char × Json))
    (same : (given.map fun member => (member.1, member.2.sortKeys)).Perm sorted)
    (ascending : sorted.Pairwise fun left right => byName left right = true)
    (distinct : (sorted.map Prod.fst).Nodup) :
    (Json.object given).sortKeys = .object sorted := by
  rw [sortKeys, sortMembers_eq]
  congr 1
  apply sortBy_eq byName byName_total _ _ same.symm ascending
  intro left leftMember right rightMember before after
  have named := precedes_antisymm left.1 right.1 before after
  exact List.inj_on_of_nodup_map distinct (same.mem_iff.mp leftMember) (same.mem_iff.mp rightMember)
    named

end Json

end TraxOs.Theory
