import Stepwise.Proofs.WrittenDoubles

/-!
# Reading what was written

Every written tree is read as some tree, as long as it is not nested too deep.
Not always as the same one: a double may come back with another last place, one
that is not finite and what is damaged are written as `null`, and integers of
more than 64 bits are read as doubles. All other trees are exact: their text is
read as the tree they were.

The reader keeps what is open on a stack and sees one token at a time. So the
induction on the tree is about a text with something behind it: the reader gets
through the written item and is then where it has a complete item and reads on.

## Main results

* `readItem_write`: the reader gets through a written item, on any stack.
* `read_write_eq_reread`: the text of a tree is read whole.
* `read_write`: an exact tree that is not too deep is read back.
-/

namespace Stepwise.Json

/-! ## Exact trees -/

mutual

/-- Whether a tree can be told from its text. -/
def isExact : Json → Bool
  | null | bool _ | text _ => true
  | number (.int n) => decide (-Int.pow 2 63 ≤ n ∧ n < Int.pow 2 64)
  | array items => allExact items
  | object members => membersExact members
  | number (.float _) | unreadable | broken => false

/-- `isExact` on items. -/
def allExact : List Json → Bool
  | [] => true
  | j :: items => isExact j && allExact items

/-- `isExact` on members, whose names have to be readable too. -/
def membersExact : List (Option String × Json) → Bool
  | [] => true
  | (name, j) :: members => name.isSome && isExact j && membersExact members

end

theorem isExact_int_iff {n : Int} :
    (number (.int n)).isExact = true ↔ -Int.pow 2 63 ≤ n ∧ n < Int.pow 2 64 := by
  rw [isExact, decide_eq_true_eq]

mutual

/-- How deep arrays and objects are nested. -/
def depth : Json → Nat
  | array items => depths items + 1
  | object members => memberDepths members + 1
  | _ => 0

/-- The greatest depth of items. -/
def depths : List Json → Nat
  | [] => 0
  | j :: items => max (depth j) (depths items)

/-- The greatest depth of what members hold. -/
def memberDepths : List (Option String × Json) → Nat
  | [] => 0
  | (_, j) :: members => max (depth j) (memberDepths members)

end

theorem isExact_record (members : List (String × Json)) :
    (record members).isExact = members.all fun member => member.2.isExact := by
  show membersExact _ = _
  induction members with
  | nil => rfl
  | cons member rest ih => simp [membersExact, ih]

theorem isExact_array (items : List Json) : (array items).isExact = items.all isExact := by
  show allExact items = _
  induction items with
  | nil => rfl
  | cons j rest ih => simp [allExact, ih]

/-- Whether a tree is exact and has no more than a certain depth. -/
structure Fits (n : Nat) (j : Json) : Prop where
  isExact : j.isExact = true
  depth_le : j.depth ≤ n

theorem Fits.mono {n m : Nat} {j : Json} (h : Fits n j) (hle : n ≤ m) : Fits m j :=
  ⟨h.isExact, h.depth_le.trans hle⟩

theorem fits_text (s : String) : Fits 0 (text s) := ⟨rfl, Nat.le_refl 0⟩

theorem fits_array {items : List Json} {n : Nat} (h : ∀ j ∈ items, Fits n j) :
    Fits (n + 1) (array items) := by
  refine ⟨?_, Nat.succ_le_succ ?_⟩
  · rw [isExact_array, List.all_eq_true]
    exact fun j hj => (h j hj).isExact
  · induction items with
    | nil => exact Nat.zero_le n
    | cons j rest ih =>
        have hrest := ih fun other hother => h other (List.mem_cons_of_mem _ hother)
        exact Nat.max_le.mpr ⟨(h j List.mem_cons_self).depth_le, hrest⟩

theorem fits_record {members : List (String × Json)} {n : Nat}
    (h : ∀ member ∈ members, Fits n member.2) : Fits (n + 1) (record members) := by
  refine ⟨?_, Nat.succ_le_succ ?_⟩
  · rw [isExact_record, List.all_eq_true]
    exact fun member hmember => (h member hmember).isExact
  · induction members with
    | nil => exact Nat.zero_le n
    | cons member rest ih =>
        have hrest := ih fun other hother => h other (List.mem_cons_of_mem _ hother)
        exact Nat.max_le.mpr ⟨(h member List.mem_cons_self).depth_le, hrest⟩

/-! ## The text behind the first item -/

/-- Texts in a row are the first one and the others, each behind a separator. -/
theorem intercalate_cons (separator t : List Char) (texts : List (List Char)) :
    List.intercalate separator (t :: texts) = t ++ texts.flatMap fun t' => separator ++ t' := by
  induction texts generalizing t with
  | nil => simp [List.intercalate]
  | cons t' rest ih =>
      rw [List.intercalate_cons_cons, ih, List.flatMap_cons, List.append_assoc, List.append_assoc]

/-- Texts, each behind a comma. -/
def followers (texts : List (List Char)) : List Char := texts.flatMap fun t => ',' :: t

theorem commaSeparated_cons (t : List Char) (texts : List (List Char)) :
    commaSeparated (t :: texts) = t ++ followers texts :=
  intercalate_cons [','] t texts

theorem endsItem_followers (texts : List (List Char)) {c : Char} (h : c = ']' ∨ c = '\x7d')
    (rest : List Char) : EndsItem (followers texts ++ c :: rest) := by
  intro d hd
  cases texts with
  | nil =>
      obtain rfl := Option.some.inj hd
      exact .inr h
  | cons t texts =>
      obtain rfl := Option.some.inj hd
      exact .inl rfl

/-! ## What is read from the text of a tree -/

/-- What is read from the text of a number. -/
def Number.reread (n : Number) : Json := (read (number n).write).root

mutual

/-- What is read from the text of a tree: damage is written as `null`, a name that
cannot be read is written as an empty one, and numbers may change. -/
def reread : Json → Json
  | number n => n.reread
  | array items => array (rereads items)
  | object members => object (memberRereads members)
  | unreadable | broken => null
  | null => null
  | bool b => bool b
  | text s => text s

/-- `reread` on items. -/
def rereads : List Json → List Json
  | [] => []
  | j :: items => reread j :: rereads items

/-- `reread` on members. -/
def memberRereads : List (Option String × Json) → List (Option String × Json)
  | [] => []
  | (name, j) :: members => (some (name.getD ""), reread j) :: memberRereads members

end

theorem rereads_eq_map (items : List Json) : rereads items = items.map reread := by
  induction items with
  | nil => rfl
  | cons j rest ih => rw [rereads, ih, List.map_cons]

theorem reread_record (members : List (String × Json)) :
    (record members).reread = record (members.map fun member => (member.1, member.2.reread)) := by
  rw [record, reread, record]
  congr 1
  induction members with
  | nil => rfl
  | cons member rest ih =>
      rw [List.map_cons, memberRereads, ih]
      rfl

/-! ## Numbers -/

/-- A written number is one token, wherever it stands. -/
theorem tokensFrom_number (n : Number) : ∃ token, (token = .null ∨ ∃ found, token = .number found) ∧
    ∀ rest, EndsItem rest → tokensFrom .between ((number n).write ++ rest) =
      token :: tokensFrom .between rest := by
  cases n with
  | int n =>
      obtain ⟨found, -, htokens⟩ := tokensFrom_signed n
      exact ⟨.number found, .inr ⟨found, rfl⟩, htokens⟩
  | float x =>
      rw [write]
      by_cases hfinite : x.isFinite = true
      · obtain ⟨y, htokens⟩ := tokensFrom_write hfinite
        rw [if_pos hfinite]
        exact ⟨.number (some (.float y)), .inr ⟨_, rfl⟩, htokens⟩
      · rw [if_neg hfinite]
        exact ⟨.null, .inl rfl, fun _ _ => rfl⟩

theorem Number.reread_of_tokens {n : Number} {token : Token}
    (h : ∀ rest, EndsItem rest → tokensFrom .between ((number n).write ++ rest) =
      token :: tokensFrom .between rest) : n.reread = (readItem [] [token]).root := by
  have hend := h [] endsItem_nil
  rw [List.append_nil] at hend
  rw [Number.reread, read, tokens, hend]
  rfl

/-- What a reader makes of a written number does not depend on where it stands. -/
theorem exists_token (n : Number) : ∃ token,
    (∀ stack tokens, readItem stack (token :: tokens) = readOn stack n.reread tokens) ∧
    token ≠ .closeArray ∧
    ∀ rest, EndsItem rest → tokensFrom .between ((number n).write ++ rest) =
      token :: tokensFrom .between rest := by
  obtain ⟨token, htoken, htokens⟩ := tokensFrom_number n
  have hread := Number.reread_of_tokens htokens
  refine ⟨token, fun stack tokens => ?_, ?_, htokens⟩
  · rcases htoken with rfl | ⟨_ | found, rfl⟩
    · rw [hread, readItem, readItem]
      rfl
    · rw [hread, readItem, readItem]
      rfl
    · rw [hread, readItem, readItem]
      rfl
  · rcases htoken with rfl | ⟨found, rfl⟩
    · exact Token.noConfusion
    · exact Token.noConfusion

theorem Number.reread_int {n : Int} (hlow : -Int.pow 2 63 ≤ n) (hhigh : n < Int.pow 2 64) :
    (Number.int n).reread = number (.int n) := by
  obtain ⟨found, hfound, htokens⟩ := tokensFrom_signed n
  rw [hfound ⟨hlow, hhigh⟩] at htokens
  have hread : (Number.int n).reread = (readItem [] [.number (some (.int n))]).root :=
    Number.reread_of_tokens htokens
  rw [hread]
  rfl

/-- From the text of a finite double a double is read. -/
theorem Number.reread_float {x : Numeric.Binary64} (h : x.isFinite = true) :
    ∃ y, (Number.float x).reread = number (.float y) := by
  obtain ⟨y, htokens⟩ := tokensFrom_write h
  have hread : (Number.float x).reread = (readItem [] [.number (some (.float y))]).root := by
    refine Number.reread_of_tokens ?_
    rw [Json.write, if_pos h]
    exact htokens
  refine ⟨y, ?_⟩
  rw [hread]
  rfl

theorem Number.reread_float_of_not_finite {x : Numeric.Binary64} (h : x.isFinite = false) :
    (Number.float x).reread = null := by
  rw [Number.reread, Json.write, h]
  rfl

mutual

/-- An exact tree is what is read from its text. -/
theorem reread_of_isExact : (j : Json) → j.isExact = true → j.reread = j
  | null, _ => rfl
  | bool _, _ => rfl
  | number (.int n), h => by
      obtain ⟨hlow, hhigh⟩ := isExact_int_iff.mp h
      exact Number.reread_int hlow hhigh
  | number (.float x), h => by simp [isExact] at h
  | text _, _ => rfl
  | array items, h => by rw [reread, rereads_of_allExact items h]
  | object members, h => by rw [reread, memberRereads_of_membersExact members h]
  | unreadable, h => by simp [isExact] at h
  | broken, h => by simp [isExact] at h

theorem rereads_of_allExact : (items : List Json) → allExact items = true →
    rereads items = items
  | [], _ => rfl
  | j :: items, h => by
      simp only [allExact, Bool.and_eq_true] at h
      rw [rereads, reread_of_isExact j h.1, rereads_of_allExact items h.2]

theorem memberRereads_of_membersExact : (members : List (Option String × Json)) →
    membersExact members = true → memberRereads members = members
  | [], _ => rfl
  | (none, j) :: members, h => by simp [membersExact] at h
  | (some name, j) :: members, h => by
      simp only [membersExact, Bool.and_eq_true] at h
      rw [memberRereads, reread_of_isExact j h.1.2, memberRereads_of_membersExact members h.2]
      rfl

end

/-! ## Steps of the reader -/

theorem settle_of_lt {stack : List Pending} (h : stack.length < maxDepth) (j : Json) :
    settle stack j = j := by
  have hall : (stack.drop (maxDepth - 1)).isEmpty = true := by
    rw [List.isEmpty_iff, List.drop_eq_nil_iff]
    omega
  rw [settle, if_pos hall]

theorem readItem_openArray (stack : List Pending) {tokens : List Token}
    (h : tokens.head? ≠ some .closeArray) :
    readItem stack (.openArray :: tokens) = readItem (.array [] :: stack) tokens := by
  rw [readItem]
  rintro rest rfl
  exact h rfl

/-- No written item begins with the end of an array. -/
theorem head?_tokensFrom_write (j : Json) {rest : List Char} (hrest : EndsItem rest) :
    (tokensFrom .between (j.write ++ rest)).head? ≠ some .closeArray := by
  cases j with
  | null => simp [write, tokensFrom, step, stepBetween]
  | bool b => cases b <;> simp [write, tokensFrom, step, stepBetween]
  | number n =>
      obtain ⟨token, -, hopen, htokens⟩ := exists_token n
      rw [htokens rest hrest]
      simpa using hopen
  | text s =>
      rw [write, tokensFrom_writeText]
      simp
  | array items => simp [write, tokensFrom, step, stepBetween]
  | object members => simp [write, tokensFrom, step, stepBetween]
  | unreadable => simp [write, tokensFrom, step, stepBetween]
  | broken => simp [write, tokensFrom, step, stepBetween]

/-! ## Trees -/

mutual

/-- The reader gets through a written item and has complete what is read from it. -/
theorem readItem_write : (j : Json) → (stack : List Pending) → (rest : List Char) →
    stack.length + j.depth ≤ maxDepth → EndsItem rest →
    readItem stack (tokensFrom .between (j.write ++ rest)) =
      readOn stack j.reread (tokensFrom .between rest)
  | null, stack, rest, _, _ => by
      show readItem stack (.null :: tokensFrom .between rest) = _
      rw [readItem, reread]
  | unreadable, stack, rest, _, _ => by
      show readItem stack (.null :: tokensFrom .between rest) = _
      rw [readItem, reread]
  | broken, stack, rest, _, _ => by
      show readItem stack (.null :: tokensFrom .between rest) = _
      rw [readItem, reread]
  | bool true, stack, rest, _, _ => by
      show readItem stack (.bool true :: tokensFrom .between rest) = _
      rw [readItem, reread]
  | bool false, stack, rest, _, _ => by
      show readItem stack (.bool false :: tokensFrom .between rest) = _
      rw [readItem, reread]
  | number n, stack, rest, _, hrest => by
      obtain ⟨token, hread, -, htokens⟩ := exists_token n
      rw [htokens rest hrest, hread, reread]
  | text s, stack, rest, _, _ => by
      rw [write, tokensFrom_writeText, String.ofList_toList, readItem, reread]
  | array [], stack, rest, hdepth, _ => by
      have hsettle : settle stack (.array []) = .array [] :=
        settle_of_lt (by simp only [depth] at hdepth; omega) _
      show readItem stack (.openArray :: .closeArray :: tokensFrom .between rest) = _
      rw [readItem, hsettle]
      rfl
  | array (j :: items), stack, rest, hdepth, _ => by
      simp only [depth, depths] at hdepth
      have hbehind : EndsItem (followers (writes items) ++ ']' :: rest) :=
        endsItem_followers _ (.inl rfl) rest
      have htext : (array (j :: items)).write ++ rest =
          '[' :: (j.write ++ (followers (writes items) ++ ']' :: rest)) := by
        simp [write, writes, commaSeparated_cons]
      have hitem := readItem_write j (.array [] :: stack) _
        (by simp only [List.length_cons]; omega) hbehind
      have hitems := readOn_items items j.reread [] stack rest (by omega)
      rw [htext]
      -- The bracket opens an empty array only if the array ends at once.
      show readItem stack (.openArray :: tokensFrom .between _) = _
      rw [readItem_openArray stack (head?_tokensFrom_write j hbehind), hitem, hitems]
      rfl
  | object [], stack, rest, hdepth, _ => by
      have hsettle : settle stack (.object []) = .object [] :=
        settle_of_lt (by simp only [depth] at hdepth; omega) _
      show readItem stack (.openObject :: .closeObject :: tokensFrom .between rest) = _
      rw [readItem, hsettle]
      rfl
  | object ((name, j) :: members), stack, rest, hdepth, _ => by
      simp only [depth, memberDepths] at hdepth
      have hbehind : EndsItem (followers (memberWrites members) ++ '\x7d' :: rest) :=
        endsItem_followers _ (.inr rfl) rest
      have htext : (object ((name, j) :: members)).write ++ rest =
          '\x7b' :: (writeText (name.getD "").toList ++
            ':' :: (j.write ++ (followers (memberWrites members) ++ '\x7d' :: rest))) := by
        simp [write, memberWrites, commaSeparated_cons]
      have hitem := readItem_write j (.object [] (some (name.getD "")) :: stack) _
        (by simp only [List.length_cons]; omega) hbehind
      have hmembers := readOn_members members (some (name.getD "")) j.reread [] stack rest
        (by omega)
      rw [htext]
      show readItem stack (.openObject :: tokensFrom .between _) = _
      rw [tokensFrom_writeText, String.ofList_toList]
      show readItem stack
        (.openObject :: .text (some (name.getD "")) :: .colon :: tokensFrom .between _) = _
      rw [readItem, hitem, hmembers]
      rfl

/-- The reader gets through the items behind a complete one and closes the
array. -/
theorem readOn_items : (items : List Json) → (j : Json) → (before : List Json) →
    (stack : List Pending) → (rest : List Char) →
    stack.length + depths items + 1 ≤ maxDepth →
    readOn (.array before :: stack) j
        (tokensFrom .between (followers (writes items) ++ ']' :: rest)) =
      readOn stack (.array (before.reverse ++ j :: rereads items)) (tokensFrom .between rest)
  | [], j, before, stack, rest, hdepth => by
      have hsettle : settle stack (.array (j :: before).reverse) = .array (j :: before).reverse :=
        settle_of_lt (by omega) _
      show readOn (.array before :: stack) j (.closeArray :: tokensFrom .between rest) = _
      rw [readOn, hsettle, List.reverse_cons, rereads]
  | j' :: items, j, before, stack, rest, hdepth => by
      simp only [depths] at hdepth
      have hitem := readItem_write j' (.array (j :: before) :: stack) _
        (by simp only [List.length_cons]; omega) (endsItem_followers (writes items) (.inl rfl) rest)
      have hitems := readOn_items items j'.reread (j :: before) stack rest (by omega)
      have htext : followers (writes (j' :: items)) ++ ']' :: rest =
          ',' :: (j'.write ++ (followers (writes items) ++ ']' :: rest)) := by
        simp [writes, followers]
      rw [htext]
      show readOn (.array before :: stack) j (.comma :: tokensFrom .between _) = _
      rw [readOn, hitem, hitems, List.reverse_cons, List.append_assoc, rereads]
      rfl

/-- The reader gets through the members behind a complete one and closes the
object. -/
theorem readOn_members : (members : List (Option String × Json)) → (name : Option String) →
    (j : Json) → (before : List (Option String × Json)) → (stack : List Pending) →
    (rest : List Char) → stack.length + memberDepths members + 1 ≤ maxDepth →
    readOn (.object before name :: stack) j
        (tokensFrom .between (followers (memberWrites members) ++ '\x7d' :: rest)) =
      readOn stack (.object (before.reverse ++ (name, j) :: memberRereads members))
        (tokensFrom .between rest)
  | [], name, j, before, stack, rest, hdepth => by
      have hsettle : settle stack (.object ((name, j) :: before).reverse) =
          .object ((name, j) :: before).reverse :=
        settle_of_lt (by omega) _
      show readOn (.object before name :: stack) j (.closeObject :: tokensFrom .between rest) = _
      rw [readOn, hsettle, List.reverse_cons, memberRereads]
  | (name', j') :: members, name, j, before, stack, rest, hdepth => by
      simp only [memberDepths] at hdepth
      have hitem := readItem_write j'
        (.object ((name, j) :: before) (some (name'.getD "")) :: stack) _
        (by simp only [List.length_cons]; omega)
        (endsItem_followers (memberWrites members) (.inr rfl) rest)
      have hmembers := readOn_members members (some (name'.getD "")) j'.reread
        ((name, j) :: before) stack rest (by omega)
      have htext : followers (memberWrites ((name', j') :: members)) ++ '\x7d' :: rest =
          ',' :: (writeText (name'.getD "").toList ++
            ':' :: (j'.write ++ (followers (memberWrites members) ++ '\x7d' :: rest))) := by
        simp [memberWrites, followers]
      rw [htext]
      show readOn (.object before name :: stack) j (.comma :: tokensFrom .between _) = _
      rw [tokensFrom_writeText, String.ofList_toList]
      show readOn (.object before name :: stack) j
        (.comma :: .text (some (name'.getD "")) :: .colon :: tokensFrom .between _) = _
      rw [readOn, hitem, hmembers, List.reverse_cons, List.append_assoc, memberRereads]
      rfl

end

/-- The text of a tree is read without anything left over. -/
theorem read_write_eq_reread {j : Json} (hdepth : j.depth ≤ maxDepth) :
    read j.write = ⟨j.reread, true⟩ := by
  have hroom : ([] : List Pending).length + j.depth ≤ maxDepth := by simpa using hdepth
  have hread := readItem_write j [] [] hroom endsItem_nil
  rw [List.append_nil] at hread
  rw [read, tokens, hread]
  rfl

/-- The text of an exact tree is read as the tree, and nothing is left over. -/
theorem read_write {j : Json} (hexact : j.isExact = true) (hdepth : j.depth ≤ maxDepth) :
    read j.write = ⟨j, true⟩ := by
  rw [read_write_eq_reread hdepth, reread_of_isExact j hexact]

end Stepwise.Json
