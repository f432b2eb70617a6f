import RemoteSigner.Proofs.Json.Double
import RemoteSigner.Proofs.Json.RoundTrip

/-!
# Documents that were read

What is read of a text has numbers that can be written and read again (`legible_ofTokens`),
and was read within a depth, so as a document it is `Readable` within that depth
(`readable_of_toJson`), and stays so when its members are sorted (`readable_sorted`).
-/

namespace RemoteSigner.Json

/-- The number of a token, if it has one, is legible. -/
def Token.Legible : Token → Prop
  | .number (.ok n) => n.Legible
  | _ => True

/-- All numbers of tokens are legible. -/
def LegibleTokens (ts : List Token) : Prop :=
  ∀ t ∈ ts, t.Legible

namespace Reading

mutual

/-- All numbers that were read are legible. -/
def Legible : Reading → Prop
  | .number (.ok n) => n.Legible
  | .list items _ => LegibleItems items
  | .record members _ => LegibleMembers members
  | _ => True

/-- All numbers in the elements of an array are legible. -/
def LegibleItems : List Reading → Prop
  | [] => True
  | r :: rest => Legible r ∧ LegibleItems rest

/-- All numbers in the members of an object are legible. -/
def LegibleMembers : List (Key × Reading) → Prop
  | [] => True
  | (_, r) :: rest => Legible r ∧ LegibleMembers rest

end

theorem LegibleItems.mem {items : List Reading} (h : LegibleItems items) {r : Reading}
    (hr : r ∈ items) : r.Legible := by
  induction items with
  | nil => cases hr
  | cons first rest ih =>
      rcases List.mem_cons.mp hr with rfl | hr
      · exact h.1
      · exact ih h.2 hr

theorem LegibleMembers.mem {members : List (Key × Reading)} (h : LegibleMembers members)
    {k : Key} {r : Reading} (hr : (k, r) ∈ members) : r.Legible := by
  induction members with
  | nil => cases hr
  | cons first rest ih =>
      rcases List.mem_cons.mp hr with rfl | hr
      · exact h.1
      · exact ih h.2 hr

/-! ## From tokens -/

/-- What readers make of legible tokens by some fuel. -/
structure Faithful (fuel : Nat) : Prop where
  value : ∀ {ts}, LegibleTokens ts → (Reading.value fuel ts).1.Legible ∧
    LegibleTokens (Reading.value fuel ts).2
  firstItem : ∀ {ts}, LegibleTokens ts → LegibleItems (Reading.firstItem fuel ts).1 ∧
    LegibleTokens (Reading.firstItem fuel ts).2.2
  nextItem : ∀ {ts}, LegibleTokens ts → LegibleItems (Reading.nextItem fuel ts).1 ∧
    LegibleTokens (Reading.nextItem fuel ts).2.2
  memberValue : ∀ {ts}, LegibleTokens ts → (Reading.memberValue fuel ts).1.Legible ∧
    LegibleTokens (Reading.memberValue fuel ts).2
  firstMember : ∀ {ts}, LegibleTokens ts → LegibleMembers (Reading.firstMember fuel ts).1 ∧
    LegibleTokens (Reading.firstMember fuel ts).2.2
  nextMember : ∀ {ts}, LegibleTokens ts → LegibleMembers (Reading.nextMember fuel ts).1 ∧
    LegibleTokens (Reading.nextMember fuel ts).2.2

theorem legible_cons {t : Token} {ts : List Token} (h : LegibleTokens (t :: ts)) :
    LegibleTokens ts := fun u hu => h u (List.mem_cons_of_mem t hu)

theorem legible_nil : LegibleTokens [] := fun _ h => nomatch h

theorem faithful (fuel : Nat) : Faithful fuel := by
  induction fuel with
  | zero =>
      constructor <;> intro ts _ <;>
        simp [Reading.value, Reading.firstItem, Reading.nextItem, Reading.memberValue,
          Reading.firstMember, Reading.nextMember, Legible, LegibleItems, LegibleMembers,
          legible_nil]
  | succ fuel ih =>
      have hitem : ∀ {ts}, LegibleTokens ts →
          LegibleItems ((Reading.value fuel ts).1 ::
            (Reading.nextItem fuel (Reading.value fuel ts).2).1) ∧
            LegibleTokens (Reading.nextItem fuel (Reading.value fuel ts).2).2.2 := fun h =>
        ⟨⟨(ih.value h).1, (ih.nextItem (ih.value h).2).1⟩, (ih.nextItem (ih.value h).2).2⟩
      have hmember : ∀ {ts} (k : Key), LegibleTokens ts →
          LegibleMembers ((k, (Reading.memberValue fuel ts).1) ::
              (Reading.nextMember fuel (Reading.memberValue fuel ts).2).1) ∧
            LegibleTokens (Reading.nextMember fuel (Reading.memberValue fuel ts).2).2.2 :=
        fun k h => ⟨⟨(ih.memberValue h).1, (ih.nextMember (ih.memberValue h).2).1⟩,
          (ih.nextMember (ih.memberValue h).2).2⟩
      constructor
      case value =>
        intro ts h
        cases ts with
        | nil => exact ⟨trivial, legible_nil⟩
        | cons t rest =>
            have hrest := legible_cons h
            cases t with
            | number n => exact ⟨by cases n with
                | error fault => trivial
                | ok n => exact h _ List.mem_cons_self, hrest⟩
            | openList => exact ih.firstItem hrest
            | openRecord => exact ih.firstMember hrest
            | _ => first | exact ⟨trivial, hrest⟩ | exact ⟨trivial, legible_nil⟩
      case firstItem =>
        intro ts h
        unfold Reading.firstItem
        split
        · exact ⟨trivial, legible_nil⟩
        · exact ⟨trivial, legible_nil⟩
        · exact ⟨trivial, legible_cons h⟩
        · cases ‹fuel + 1 = _ + 1›
          exact hitem h
      case nextItem =>
        intro ts h
        unfold Reading.nextItem
        split
        · exact ⟨trivial, legible_nil⟩
        · exact ⟨trivial, legible_cons h⟩
        · exact ⟨trivial, legible_nil⟩
        · exact ⟨trivial, legible_nil⟩
        · cases ‹fuel + 1 = _ + 1›
          exact hitem (legible_cons h)
        · exact ⟨trivial, legible_nil⟩
      case memberValue =>
        intro ts h
        unfold Reading.memberValue
        split
        · exact ⟨trivial, legible_nil⟩
        · cases ‹fuel + 1 = _ + 1›
          exact ih.value (legible_cons h)
        · exact ⟨trivial, legible_nil⟩
        · exact ⟨trivial, legible_nil⟩
      case firstMember =>
        intro ts h
        unfold Reading.firstMember
        split
        · exact ⟨trivial, legible_nil⟩
        · exact ⟨trivial, legible_cons h⟩
        · cases ‹fuel + 1 = _ + 1›
          exact hmember _ (legible_cons h)
        · exact ⟨trivial, legible_nil⟩
      case nextMember =>
        intro ts h
        unfold Reading.nextMember
        split
        · exact ⟨trivial, legible_nil⟩
        · exact ⟨trivial, legible_cons h⟩
        · cases ‹fuel + 1 = _ + 1›
          exact hmember _ (legible_cons (legible_cons h))
        · exact ⟨trivial, legible_nil⟩

/-! ## To documents -/

mutual

/-- A document that was read within a depth is readable within it. -/
theorem readable_of_toJson : ∀ (r : Reading) {depth : Nat} {j : Json}, r.Legible →
    r.toJson depth = .ok j → j.Readable depth
  | .null, _, _, _, h => by
      obtain rfl := Except.ok.inj h
      trivial
  | .boolean _, _, _, _, h => by
      obtain rfl := Except.ok.inj h
      trivial
  | .number (.ok n), _, _, hr, h => by
      obtain rfl := Except.ok.inj h
      exact hr
  | .number (.error _), _, _, _, h => by cases h
  | .text (.ok _), _, _, _, h => by
      obtain rfl := Except.ok.inj h
      trivial
  | .text (.error _), _, _, _, h => by cases h
  | .list items stop, depth, j, hr, h => by
      rw [toJson] at h
      split at h
      · cases h
      · rename_i hdepth
        obtain ⟨vs, hvs, h⟩ := bind_eq_ok.mp h
        split at h
        · cases h
        · obtain rfl := Except.ok.inj h
          exact ⟨by omega, readable_of_toItems items hr hvs⟩
  | .record members stop, depth, j, hr, h => by
      rw [toJson] at h
      split at h
      · cases h
      · rename_i hdepth
        obtain ⟨vs, hvs, h⟩ := bind_eq_ok.mp h
        split at h
        · cases h
        · obtain rfl := Except.ok.inj h
          exact ⟨by omega, readable_of_toMembers members hr hvs⟩
  | .fault _ _, _, _, _, h => by cases h
  | .unfinished _ _, _, _, _, h => by cases h

theorem readable_of_toItems : ∀ (items : List Reading) {depth : Nat} {vs : List Json},
    LegibleItems items → toItems depth items = .ok vs → ReadableItems depth vs
  | [], _, _, _, h => by
      obtain rfl := Except.ok.inj h
      trivial
  | r :: rest, depth, vs, hr, h => by
      obtain ⟨v, hv, h⟩ := bind_eq_ok.mp h
      obtain ⟨more, hmore, h⟩ := bind_eq_ok.mp h
      obtain rfl := pure_eq_ok.mp h
      exact ⟨readable_of_toJson r hr.1 hv, readable_of_toItems rest hr.2 hmore⟩

theorem readable_of_toMembers : ∀ (members : List (Key × Reading)) {depth : Nat}
    {vs : List (String × Json)}, LegibleMembers members → toMembers depth members = .ok vs →
      ReadableMembers depth vs
  | [], _, _, _, h => by
      obtain rfl := Except.ok.inj h
      trivial
  | (k, r) :: rest, depth, vs, hr, h => by
      obtain ⟨k, _, h⟩ := bind_eq_ok.mp h
      obtain ⟨v, hv, h⟩ := bind_eq_ok.mp h
      obtain ⟨more, hmore, h⟩ := bind_eq_ok.mp h
      obtain rfl := pure_eq_ok.mp h
      exact ⟨readable_of_toJson r hr.1 hv, readable_of_toMembers rest hr.2 hmore⟩

end

end Reading

/-! ## Sorting -/

theorem readable_insertMember {depth : Nat} {key : String} {v : Json} (hv : v.Readable depth)
    {members : List (String × Json)} (h : ReadableMembers depth members) :
    ReadableMembers depth (insertMember key v members) := by
  induction members with
  | nil => exact ⟨hv, trivial⟩
  | cons m rest ih =>
      unfold insertMember
      split
      · exact ⟨hv, h⟩
      · split
        · exact ⟨hv, h.2⟩
        · exact ⟨h.1, ih h.2⟩

mutual

theorem readable_sorted : ∀ (j : Json) {depth : Nat}, j.Readable depth → j.sorted.Readable depth
  | .null, _, _ => trivial
  | .boolean _, _, _ => trivial
  | .number _, _, h => h
  | .text _, _, _ => trivial
  | .list items, _, h => ⟨h.1, readable_sortedItems items h.2⟩
  | .record members, _, h => ⟨h.1, readable_sortedMembers members h.2 trivial⟩

theorem readable_sortedItems : ∀ (items : List Json) {depth : Nat}, ReadableItems depth items →
    ReadableItems depth (sortedItems items)
  | [], _, _ => trivial
  | v :: rest, _, h => ⟨readable_sorted v h.1, readable_sortedItems rest h.2⟩

theorem readable_sortedMembers : ∀ (members : List (String × Json)) {depth : Nat}
    {acc : List (String × Json)}, ReadableMembers depth members → ReadableMembers depth acc →
      ReadableMembers depth (sortedMembers acc members)
  | [], _, _, _, hacc => hacc
  | (_, v) :: rest, _, _, h, hacc =>
      readable_sortedMembers rest h.2 (readable_insertMember (readable_sorted v h.1) hacc)

end

/-! ## From text -/

namespace Token

variable {c : Char} {symbols : List Symbol}

theorem legible_next (c : Char) (symbols : List Symbol) : (next c symbols).1.Legible := by
  have hnumber : ∀ u : Numeral, (Token.number u.value).Legible := by
    intro u
    cases hvalue : u.value with
    | error fault => trivial
    | ok n => exact Number.legible_of_value hvalue
  have hpunctuation : ∀ t, punctuation? c = some t → t.Legible := by
    intro t h
    unfold punctuation? at h
    split at h <;> first | (obtain rfl := Option.some.inj h; trivial) | cases h
  have hword : ∀ word t, word? c = some (word, t) → t.Legible := by
    intro word t h
    unfold word? at h
    split at h <;>
      first | (obtain ⟨_, rfl⟩ := Prod.mk.inj (Option.some.inj h); trivial) | cases h
  unfold next
  split
  · exact hpunctuation _ ‹_›
  split
  · simp only
    split <;> trivial
  split
  · split
    · exact hword _ _ ‹_›
    · trivial
  split
  · simp only
    split
    · exact hnumber _
    · trivial
  · trivial

theorem legible_ofSymbols (symbols : List Symbol) : LegibleTokens (ofSymbols symbols) := by
  induction hn : symbols.length using Nat.strong_induction_on generalizing symbols with
  | _ n ih =>
      subst hn
      cases symbols with
      | nil => exact Reading.legible_nil
      | cons s rest =>
          cases hs : isSpace s with
          | true =>
              rw [ofSymbols_space hs]
              exact ih _ (Nat.lt_succ_self _) rest rfl
          | false =>
              cases s with
              | none =>
                  exact List.forall_mem_cons.mpr ⟨trivial, ih _ (Nat.lt_succ_self _) rest rfl⟩
              | some c =>
                  have hnext := length_next c rest
                  rw [ofSymbols_cons hs]
                  exact List.forall_mem_cons.mpr
                    ⟨legible_next c rest, ih _ (Nat.lt_succ_of_le hnext) _ rfl⟩

end Token

/-- What is read of a text is legible. -/
theorem legible_ofTokens (symbols : List Symbol) :
    (Reading.ofTokens (Token.ofSymbols symbols)).1.Legible := by
  rw [Reading.ofTokens]
  exact ((Reading.faithful _).value (Token.legible_ofSymbols symbols)).1

end RemoteSigner.Json
