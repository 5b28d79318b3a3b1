import TextRules.Server.Handlers

/-!
Bodies that hold texts. A record all of whose members are texts is read only if each of them is there and is a
    text, from an object as well as from an array. So the texts that a handler takes out of a body that was read
    stand in that body.
-/

namespace TextRules

namespace Json

/-- Every member is a text. -/
def AllTexts (schema : Schema) : Prop := ∀ m ∈ schema, m.2 = .text

/-- Every member found is a text. -/
def HoldsTexts (found : Found) : Prop := ∀ m ∈ found, ∃ s, m.2 = .text s

variable {schema : Schema} {found found' : Found} {ts rest : List Token}

theorem mem_of_lookup {α : Type} {members : List (String × α)} {name : String} {a : α}
    (h : members.lookup name = some a) : (name, a) ∈ members := by
  obtain ⟨before, after, rfl, -⟩ := List.lookup_eq_some_iff.mp h
  exact List.mem_append_right before List.mem_cons_self

theorem read_text {t : Token} {scalar : Scalar} (h : MemberType.text.read t = .ok scalar) : ∃ s, scalar = .text s := by
  cases t with
  | string s =>
    cases s with
    | none => cases h
    | some s => exact ⟨s, (Except.ok.inj h).symm⟩
  | number n => cases n <;> cases h
  | _ => cases h

/-! ### Objects -/

theorem readMember_holdsTexts (texts : AllTexts schema) (read : readMember schema found ts = .ok (found', rest))
    (before : HoldsTexts found) : HoldsTexts found' := by
  unfold readMember at read
  split at read
  · rename_i name after
    cases listed : schema.lookup name with
    | none =>
      simp only [listed] at read
      split at read
      · split at read
        · cases read
          exact before
        · cases read
      · cases read
    | some type =>
      obtain rfl : type = .text := texts _ (mem_of_lookup listed)
      simp only [listed] at read
      split at read
      · cases read
      · split at read
        · split at read
          · rename_i scalar typed
            cases read
            intro m member
            rcases List.mem_append.mp member with earlier | this
            · exact before m earlier
            · rw [List.mem_singleton.mp this]
              exact read_text typed
          · cases read
        · cases read
  · cases read

theorem readMembers_holdsTexts (texts : AllTexts schema) (read : readMembers schema found ts = .ok (found', rest))
    (before : HoldsTexts found) : HoldsTexts found' := by
  fun_induction readMembers schema found ts with
  | case1 found ts fault failed => cases read
  | case2 found ts found₁ after first _ ih => exact ih read (readMember_holdsTexts texts first before)
  | case3 found ts found₁ after first =>
    cases read
    exact readMember_holdsTexts texts first before
  | case4 => cases read

theorem isSome_lookup_of_complete (texts : AllTexts schema) (complete : isComplete schema found = true)
    {m : String × MemberType} (member : m ∈ schema) : (found.lookup m.1).isSome = true := by
  obtain ⟨name, type⟩ := m
  obtain rfl : type = .text := texts _ member
  exact List.all_eq_true.mp complete _ member

/-! ### Arrays -/

theorem readElements_holdsTexts {first : Bool} (texts : AllTexts schema)
    (read : readElements first schema ts = .ok (found, rest)) :
    found.map Prod.fst = schema.map Prod.fst ∧ HoldsTexts found := by
  induction schema generalizing first found ts rest with
  | nil =>
    unfold readElements at read
    split at read
    · cases read
      exact ⟨rfl, fun m member => by cases member⟩
    · cases read
    · contradiction
    · contradiction
  | cons member schema ih =>
    have required : member.2 = .text := texts member List.mem_cons_self
    have later : AllTexts schema := fun m there => texts m (List.mem_cons_of_mem member there)
    unfold readElements at read
    split at read
    · contradiction
    · contradiction
    · rename_i same
      cases same
      cases required
      cases read
    · rename_i same _
      cases same
      cases required
      split at read
      · cases read
      · split at read
        · cases read
        · rename_i scalar typed
          split at read
          · rename_i found' rest' others
            cases read
            obtain ⟨names, held⟩ := ih later others
            refine ⟨by rw [List.map_cons, List.map_cons, names], fun m there => ?_⟩
            rcases List.mem_cons.mp there with rfl | there
            · exact read_text typed
            · exact held m there
          · cases read

theorem isSome_lookup_of_names (names : found.map Prod.fst = schema.map Prod.fst) {m : String × MemberType}
    (member : m ∈ schema) : (found.lookup m.1).isSome = true := by
  have there : m.1 ∈ found.map Prod.fst := names ▸ List.mem_map_of_mem member
  obtain ⟨⟨name, scalar⟩, listed, rfl⟩ := List.mem_map.mp there
  rw [Option.isSome_iff_ne_none]
  intro absent
  simpa using List.lookup_eq_none_iff.mp absent _ listed

/-! ### Records -/

/-- A record of texts that was read holds a text for each of its members. -/
theorem readRecord_texts (texts : AllTexts schema) (read : readRecord schema ts = .ok (found, rest)) :
    ∀ m ∈ schema, ∃ s, found.text? m.1 = some s := by
  have held : HoldsTexts found ∧ ∀ m ∈ schema, (found.lookup m.1).isSome = true := by
    unfold readRecord at read
    split at read
    · rename_i members
      dsimp only at read
      split at read
      · rename_i found₁ after some_members
        split at read
        · rename_i complete
          cases read
          refine ⟨?_, fun m member => isSome_lookup_of_complete texts complete member⟩
          split at some_members
          · cases some_members
            exact fun m member => by cases member
          · exact readMembers_holdsTexts texts some_members fun m member => by cases member
        · cases read
      · cases read
    · obtain ⟨names, held⟩ := readElements_holdsTexts texts read
      exact ⟨held, fun m member => isSome_lookup_of_names names member⟩
    all_goals cases read
  intro m member
  obtain ⟨scalar, found_scalar⟩ := Option.isSome_iff_exists.mp (held.2 m member)
  obtain ⟨s, rfl⟩ : ∃ s, scalar = .text s := held.1 _ (mem_of_lookup found_scalar)
  exact ⟨s, by rw [Found.text?, found_scalar]⟩

end Json

namespace Server

/-- What a handler takes out of a body that was read is what stands there. -/
theorem text?_of_readBody {r : Request} {limit : Nat} {schema : Json.Schema} {found : Json.Found}
    (texts : Json.AllTexts schema) (read : r.readBody limit schema = .ok found) {name : String}
    (member : (name, .text) ∈ schema) : found.text? name = some (textOf found name) := by
  obtain ⟨rest, record⟩ : ∃ rest, Json.readRecord schema (Json.tokens (Utf8.decode r.body)) = .ok (found, rest) := by
    unfold Request.readBody at read
    dsimp only at read
    split at read
    · cases read
    · split at read
      · cases read
      · split at read
        · rename_i found' rest record
          cases read
          exact ⟨rest, record⟩
        · cases read
        · cases read
  obtain ⟨s, text⟩ := Json.readRecord_texts texts record _ member
  rw [textOf, text, Option.getD_some]

end Server
end TextRules
