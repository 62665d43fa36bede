import FeedOperator.Json.Decode

/-!
# Members of structures

A structure is read member by member. A member that is named once can be told apart from all others:
what it holds ends up in the structure, and with another value in its place nothing else changes.

* `Member`: a member with its reader and with what it puts into the structure, which no other member
  touches.

Results:
* `Member.asRecord_eq`: what the member holds ends up in the structure.
* `Member.decode_split`: with another value in its place the structure has that one.
* `asRecord_keeps`, `asLooseRecord_keeps`: what every member keeps, the structure has.
-/

namespace FeedOperator

/-! ## Decoding step by step -/

namespace Decoded

variable {α β : Type}

theorem bind_eq_ok_iff {x : Decoded α} {f : α → Decoded β} {b : β} :
    (x >>= f) = .ok b ↔ ∃ a, x = .ok a ∧ f a = .ok b := by
  cases x with
  | error e => exact ⟨(nomatch ·), fun ⟨_, h, _⟩ => nomatch h⟩
  | ok a => exact ⟨fun h => ⟨a, rfl, h⟩, fun ⟨_, h, hf⟩ => Except.ok.inj h ▸ hf⟩

theorem map_eq_ok_iff {x : Decoded α} {f : α → β} {b : β} :
    f <$> x = .ok b ↔ ∃ a, x = .ok a ∧ f a = b := by
  cases x with
  | error e => exact ⟨(nomatch ·), fun ⟨_, h, _⟩ => nomatch h⟩
  | ok a => exact ⟨fun h => ⟨a, rfl, Except.ok.inj h⟩,
      fun ⟨_, h, hf⟩ => congrArg Except.ok (Except.ok.inj h ▸ hf)⟩

theorem exists_of_isOk {x : Decoded α} (h : x.isOk = true) : ∃ a, x = .ok a := by
  cases x with
  | error => cases h
  | ok a => exact ⟨a, rfl⟩

theorem foldlM_cons_eq_ok_iff {f : β → α → Decoded β} {a : α} {l : List α} {b b' : β} :
    (a :: l).foldlM f b = .ok b' ↔ ∃ c, f b a = .ok c ∧ l.foldlM f c = .ok b' := by
  rw [List.foldlM_cons, bind_eq_ok_iff]

theorem foldlM_append_eq_ok_iff {f : β → α → Decoded β} {l l' : List α} {b b' : β} :
    (l ++ l').foldlM f b = .ok b' ↔ ∃ c, l.foldlM f b = .ok c ∧ l'.foldlM f c = .ok b' := by
  rw [List.foldlM_append, bind_eq_ok_iff]

theorem mem_of_mapM {f : α → Decoded β} {l : List α} {bs : List β} {b : β}
    (h : l.mapM f = .ok bs) (hb : b ∈ bs) : ∃ a ∈ l, f a = .ok b := by
  induction l generalizing bs with
  | nil =>
    cases h
    cases hb
  | cons a l ih =>
    rw [List.mapM_cons] at h
    obtain ⟨b', ha, h⟩ := bind_eq_ok_iff.mp h
    obtain ⟨bs', hl, h⟩ := bind_eq_ok_iff.mp h
    cases h
    rcases List.mem_cons.mp hb with rfl | hb
    · exact ⟨a, List.mem_cons_self, ha⟩
    · obtain ⟨c, hc, hf⟩ := ih hl hb
      exact ⟨c, List.mem_cons_of_mem _ hc, hf⟩

/-- What every step keeps, the whole fold keeps. -/
theorem foldlM_keeps {I : β → Prop} {f : β → α → Decoded β} {l : List α} {b b' : β}
    (step : ∀ a b b', I b → f b a = .ok b' → I b') (hb : I b) (h : l.foldlM f b = .ok b') :
    I b' := by
  induction l generalizing b with
  | nil => exact Except.ok.inj h ▸ hb
  | cons a l ih =>
    obtain ⟨c, hc, h⟩ := foldlM_cons_eq_ok_iff.mp h
    exact ih (step a b c hb hc) h

end Decoded

namespace Field

variable {σ α β : Type}

theorem read_of_eq_ok_iff {name : String} {presence : Presence} {read : Reading → Decoded α}
    {put : α → σ → σ} {r : Reading} {g : σ → σ} :
    (Field.of name presence read put).read r = .ok g ↔ ∃ x, read r = .ok x ∧ put x = g :=
  Decoded.map_eq_ok_iff

/-- What is put for one field can come before or after what is put for another. -/
theorem comm_of {name : String} {presence : Presence} {read : Reading → Decoded α}
    {put : α → σ → σ} {r : Reading} {g update : σ → σ}
    (hg : (Field.of name presence read put).read r = .ok g)
    (h : ∀ x s, put x (update s) = update (put x s)) (s : σ) : g (update s) = update (g s) := by
  obtain ⟨x, -, rfl⟩ := read_of_eq_ok_iff.mp hg
  exact h x s

/-- A field keeps what its values keep. -/
theorem keeps_of {I : σ → Prop} {name : String} {presence : Presence}
    {read : Reading → Decoded α} {put : α → σ → σ}
    (h : ∀ r x, read r = .ok x → ∀ s, I s → I (put x s)) (r : Reading) (g : σ → σ)
    (hg : (Field.of name presence read put).read r = .ok g) (s : σ) (hs : I s) : I (g s) := by
  obtain ⟨x, hx, rfl⟩ := read_of_eq_ok_iff.mp hg
  exact h r x hx s hs

end Field

namespace Reading

variable {σ α : Type} {fields : List (Field σ)}

theorem asOption_eq_ok {read : Reading → Decoded α} {r : Reading} {x : Option α}
    (h : r.asOption read = .ok x) : x = none ∨ ∃ a, read r = .ok a ∧ x = some a := by
  unfold asOption at h
  split at h
  · exact .inl (Except.ok.inj h).symm
  · obtain ⟨a, ha, rfl⟩ := Decoded.map_eq_ok_iff.mp h
    exact .inr ⟨a, ha, rfl⟩

/-! ## Structures -/

/-- One member of a structure: either it is skipped, or a field reads it that has not been seen. -/
theorem recordStep_eq_ok {state next : List String × σ} {member : Option String × Reading}
    (h : recordStep fields state member = .ok next) :
    next = state ∨ ∃ k f g, member.1 = some k ∧ fields.find? (·.name == k) = some f ∧
      k ∉ state.1 ∧ f.read member.2 = .ok g ∧ next = (k :: state.1, g state.2) := by
  unfold recordStep at h
  split at h
  · cases h
  · next k v =>
    split at h
    · obtain ⟨_, -, h⟩ := Decoded.bind_eq_ok_iff.mp h
      exact .inl (Except.ok.inj h).symm
    · next f hf =>
      split at h
      · cases h
      · next hseen =>
        obtain ⟨g, hg, h⟩ := Decoded.bind_eq_ok_iff.mp h
        exact .inr ⟨k, f, g, rfl, hf, hseen, hg, (Except.ok.inj h).symm⟩

/-- What every field keeps, the structure has. -/
theorem asRecord_keeps {I : σ → Prop} {start value : σ} {r : Reading}
    (keeps : ∀ f ∈ fields, ∀ r g, f.read r = .ok g → ∀ s, I s → I (g s)) (hstart : I start)
    (h : asRecord fields start r = .ok value) : I value := by
  have items : ∀ (fields' : List (Field σ)) (rs : List Reading) (s : σ),
      (∀ f ∈ fields', f ∈ fields) → I s → recordItems fields' rs s = .ok value → I value := by
    intro fields'
    induction fields' with
    | nil =>
      intro rs s _ hs h
      cases rs with
      | nil => exact Except.ok.inj h ▸ hs
      | cons => cases h
    | cons f fields' ih =>
      intro rs s hmem hs h
      have hrest := fun g hg => hmem g (List.mem_cons_of_mem _ hg)
      cases rs with
      | nil =>
        rw [recordItems] at h
        split at h
        · exact ih [] s hrest hs h
        · cases h
      | cons r rs =>
        obtain ⟨g, hg, h⟩ := Decoded.bind_eq_ok_iff.mp h
        exact ih rs (g s) hrest (keeps f (hmem f List.mem_cons_self) r g hg s hs) h
  unfold asRecord at h
  split at h
  · obtain ⟨⟨seen, value'⟩, hfold, h⟩ := Decoded.bind_eq_ok_iff.mp h
    have kept : I value' := by
      refine Decoded.foldlM_keeps (I := fun state => I state.2)
        (fun member state next hs hnext => ?_) hstart hfold
      rcases recordStep_eq_ok hnext with rfl | ⟨_, f, g, -, hf, -, hg, rfl⟩
      · exact hs
      · exact keeps f (List.mem_of_find?_eq_some hf) _ g hg state.2 hs
    dsimp only at h
    split at h
    · exact Except.ok.inj h ▸ kept
    · cases h
  · exact items fields _ start (fun _ hf => hf) hstart h
  · cases h

/-- What every field keeps, the loose structure has. -/
theorem asLooseRecord_keeps {I : σ → Prop} {start value : σ} {r : Reading}
    (keeps : ∀ f ∈ fields, ∀ r g, f.read r = .ok g → ∀ s, I s → I (g s)) (hstart : I start)
    (h : asLooseRecord fields start r = .ok value) : I value := by
  unfold asLooseRecord at h
  split at h
  · refine Decoded.foldlM_keeps (fun member s s' hs hs' => ?_) hstart h
    unfold looseStep at hs'
    split at hs'
    · cases hs'
    · split at hs'
      · obtain ⟨_, -, hs'⟩ := Decoded.bind_eq_ok_iff.mp hs'
        exact Except.ok.inj hs' ▸ hs
      · next f hf =>
        obtain ⟨g, hg, hs'⟩ := Decoded.bind_eq_ok_iff.mp hs'
        exact Except.ok.inj hs' ▸ keeps f (List.mem_of_find?_eq_some hf) _ g hg s hs
  · cases h

/-! ## One member -/

theorem ofJsonMembers_append (a b : List (String × Json)) :
    ofJsonMembers (a ++ b) = ofJsonMembers a ++ ofJsonMembers b := by
  induction a with
  | nil => rfl
  | cons m a ih => rw [List.cons_append, ofJsonMembers, ofJsonMembers, ih, List.cons_append]

theorem mem_ofJsonMembers {members : List (String × Json)} {k : String} {v : Json}
    (h : (k, v) ∈ members) : (some k, ofJson v) ∈ ofJsonMembers members := by
  obtain ⟨front, back, rfl⟩ := List.append_of_mem h
  rw [ofJsonMembers_append, ofJsonMembers]
  simp

/-- A member with its reader and with what it puts into the structure, which no other member
touches. -/
structure Member (fields : List (Field σ)) (name : String) (read : Reading → Decoded α)
    (put : α → σ → σ) : Prop where
  found : ∃ presence, fields.find? (·.name == name) = some (.of name presence read put)
  absorbs : ∀ x y s, put x (put y s) = put x s
  comm : ∀ f ∈ fields, f.name ≠ name → ∀ r g, f.read r = .ok g →
    ∀ x s, g (put x s) = put x (g s)

namespace Member

variable {name : String} {read : Reading → Decoded α} {put : α → σ → σ} {start value : σ}
variable {front back : List (Option String × Reading)} {v w : Reading}

/-- Once the member was seen, another value for it can come before all that is read after it. -/
theorem foldlM_put (member : Member fields name read put) (x : α)
    {members : List (Option String × Reading)} {seen seen' : List String} {s s' : σ}
    (hseen : name ∈ seen) (h : members.foldlM (recordStep fields) (seen, s) = .ok (seen', s')) :
    members.foldlM (recordStep fields) (seen, put x s) = .ok (seen', put x s') := by
  induction members generalizing seen s with
  | nil =>
    cases h
    rfl
  | cons m members ih =>
    obtain ⟨k?, r⟩ := m
    obtain ⟨⟨seen₁, s₁⟩, hstep, h⟩ := Decoded.foldlM_cons_eq_ok_iff.mp h
    refine Decoded.foldlM_cons_eq_ok_iff.mpr ?_
    cases k? with
    | none => cases hstep
    | some k =>
      unfold recordStep at hstep ⊢
      cases hf : fields.find? (·.name == k) with
      | none =>
        simp only [hf] at hstep ⊢
        obtain ⟨_, hskip, hstep⟩ := Decoded.bind_eq_ok_iff.mp hstep
        cases hstep
        exact ⟨_, Decoded.bind_eq_ok_iff.mpr ⟨_, hskip, rfl⟩, ih hseen h⟩
      | some f =>
        simp only [hf] at hstep ⊢
        split at hstep
        · cases hstep
        · next hnew =>
          obtain ⟨g, hg, hstep⟩ := Decoded.bind_eq_ok_iff.mp hstep
          cases hstep
          have hk : f.name = k := by simpa using List.find?_some hf
          have hne : f.name ≠ name := fun heq => hnew (hk ▸ heq ▸ hseen)
          rw [if_neg hnew]
          refine ⟨_, Decoded.bind_eq_ok_iff.mpr ⟨g, hg, rfl⟩, ?_⟩
          rw [member.comm f (List.mem_of_find?_eq_some hf) hne _ g hg]
          exact ih (List.mem_cons_of_mem _ hseen) h

/-- What is read of an object with the member. -/
theorem asRecord_split (member : Member fields name read put)
    (h : asRecord fields start (.obj (front ++ (some name, v) :: back)) = .ok value) :
    ∃ x, read v = .ok x ∧ put x value = value ∧ ∀ w y, read w = .ok y →
      asRecord fields start (.obj (front ++ (some name, w) :: back)) = .ok (put y value) := by
  obtain ⟨presence, found⟩ := member.found
  unfold asRecord at h ⊢
  obtain ⟨⟨seen, value'⟩, hfold, h⟩ := Decoded.bind_eq_ok_iff.mp h
  dsimp only at h
  split at h
  · next hall =>
    cases h
    obtain ⟨⟨seen₁, s₁⟩, hfront, hrest⟩ := Decoded.foldlM_append_eq_ok_iff.mp hfold
    obtain ⟨⟨seen₂, s₂⟩, hstep, hback⟩ := Decoded.foldlM_cons_eq_ok_iff.mp hrest
    have step : ∀ (u : Reading) (y : α), read u = .ok y → name ∉ seen₁ →
        recordStep fields (seen₁, s₁) (some name, u) = .ok (name :: seen₁, put y s₁) := by
      intro u y hu hnew
      simp only [recordStep, found, if_neg hnew]
      exact Decoded.bind_eq_ok_iff.mpr ⟨put y, Field.read_of_eq_ok_iff.mpr ⟨y, hu, rfl⟩, rfl⟩
    rcases recordStep_eq_ok hstep with heq | ⟨k, f, g, hk, hf, hnew, hg, heq⟩
    · -- A field of that name is not skipped.
      simp only [recordStep, found] at hstep
      split at hstep
      · cases hstep
      · next hnew =>
        obtain ⟨_, _, hstep⟩ := Decoded.bind_eq_ok_iff.mp hstep
        cases hstep
        cases heq
    · obtain rfl := Option.some.inj hk
      obtain rfl := Option.some.inj (found.symm.trans hf)
      obtain ⟨x, hx, rfl⟩ := Field.read_of_eq_ok_iff.mp hg
      cases heq
      have after : ∀ y, back.foldlM (recordStep fields) (name :: seen₁, put y s₁) =
          .ok (seen, put y value) := fun y => by
        have := member.foldlM_put y List.mem_cons_self hback
        rwa [member.absorbs] at this
      refine ⟨x, hx, ?_, fun w y hw => ?_⟩
      · exact congrArg Prod.snd (Except.ok.inj ((after x).symm.trans hback))
      · refine Decoded.bind_eq_ok_iff.mpr ⟨(seen, put y value), ?_, if_pos hall⟩
        exact Decoded.foldlM_append_eq_ok_iff.mpr ⟨_, hfront,
          Decoded.foldlM_cons_eq_ok_iff.mpr ⟨_, step w y hw hnew, after y⟩⟩
  · cases h

/-- **What a member holds ends up in the structure.** -/
theorem asRecord_eq (member : Member fields name read put)
    (h : asRecord fields start (.obj (front ++ (some name, v) :: back)) = .ok value) :
    ∃ x, read v = .ok x ∧ put x value = value := by
  obtain ⟨x, hx, hput, -⟩ := member.asRecord_split h
  exact ⟨x, hx, hput⟩

/-- **With another value in its place the structure has that one.** -/
theorem decode_split (member : Member fields name read put) {front back : List (String × Json)}
    {v : Json} (h : (Json.obj (front ++ (name, v) :: back)).decode (asRecord fields start) =
      .ok value) :
    ∃ x, v.decode read = .ok x ∧ put x value = value ∧ ∀ w y, Json.decode read w = .ok y →
      (Json.obj (front ++ (name, w) :: back)).decode (asRecord fields start) =
        .ok (put y value) := by
  have read_as : ∀ u : Json, ofJson (.obj (front ++ (name, u) :: back)) =
      .obj (ofJsonMembers front ++ (some name, ofJson u) :: ofJsonMembers back) := fun u => by
    rw [ofJson, ofJsonMembers_append, ofJsonMembers]
  unfold Json.decode at h ⊢
  rw [read_as] at h
  obtain ⟨x, hx, hput, replaced⟩ := member.asRecord_split h
  exact ⟨x, hx, hput, fun w y hw => read_as w ▸ replaced (ofJson w) y hw⟩

end Member

end Reading

end FeedOperator
