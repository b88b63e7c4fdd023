import Mathlib.Data.Finset.Card
import AgentDesktop.RefIds
import AgentDesktop.Util.Runs

/-!
# The store of retained elements

A reference may hold on to the native element it was made for. Elements come
without a name, and two handles may stand for one element, so the store gives
each element that it holds a token: it keeps the elements in buckets by a hash,
and looks for an equal one in its bucket. The tokens are numbered and kept in a
set of their own. When snapshots are discarded, only the elements whose tokens
are still in use are retained.
-/

namespace AgentDesktop

/-- **A native element**, as far as the store looks at it. -/
class NativeElement (E : Type) where
  /-- Whether the handle is null. -/
  isNull : E → Bool
  sameElement : E → E → Bool
  elementHash : E → UInt64

/-- **What the framework promises**: being the same element is an equivalence, and the same element
has the same hash. -/
class LawfulNativeElement (E : Type) [NativeElement E] : Prop where
  /-- An element is the same as itself. -/
  refl (e : E) : NativeElement.sameElement e e = true
  /-- The order of the two does not matter. -/
  symm {e e' : E} : NativeElement.sameElement e e' = true → NativeElement.sameElement e' e = true
  /-- What is the same as the same is the same. -/
  trans {e e' e'' : E} : NativeElement.sameElement e e' = true →
    NativeElement.sameElement e' e'' = true → NativeElement.sameElement e e'' = true
  /-- The hash does not tell handles of one element apart. -/
  hash_eq {e e' : E} : NativeElement.sameElement e e' = true →
    NativeElement.elementHash e = NativeElement.elementHash e'

/-- `MAX_OBJECTS`. -/
def maxObjects : ℕ := 65536

/-- `RetainedStore`; a bucket that is not there is an empty one. -/
structure RetainedStore (E : Type) where
  /-- What the tokens of this store begin with. -/
  generation : String
  /-- The elements and their tokens, by hash. -/
  buckets : UInt64 → List (String × E)
  /-- How many tokens were issued. -/
  count : ℕ
  /-- The tokens that are held. -/
  tokens : Finset String

namespace RetainedStore

variable {E : Type}

/-- `RetainedStore::new`. -/
def new (generation : String) : RetainedStore E := ⟨generation, fun _ => [], 0, ∅⟩

/-- The token with a number. -/
def token (store : RetainedStore E) (number : ℕ) : String :=
  store.generation ++ ":" ++ toString number

/-- `contains_token`. -/
def containsToken (store : RetainedStore E) (token : String) : Bool := decide (token ∈ store.tokens)

/-- `retain`. -/
def retain (store : RetainedStore E) (live : Finset String) : RetainedStore E :=
  { store with
    buckets := fun hash => (store.buckets hash).filter (fun entry => entry.1 ∈ live)
    tokens := store.tokens.filter (· ∈ live) }

section Capture

variable [NativeElement E]

open NativeElement

/-- `lookup`. -/
def lookup (store : RetainedStore E) (element : E) : Option String :=
  ((store.buckets (elementHash element)).find?
    (fun entry => sameElement entry.2 element)).map Prod.fst

/-- The store with an element and its token added. -/
def insert (store : RetainedStore E) (element : E) : RetainedStore E :=
  let token := store.token (store.count + 1)
  { store with
    count := store.count + 1
    tokens := Insert.insert token store.tokens
    buckets := fun hash =>
      if hash = elementHash element then store.buckets hash ++ [(token, element)]
      else store.buckets hash }

/-- `capture`. -/
def capture (store : RetainedStore E) (element : E) :
    Except AdapterError String × RetainedStore E :=
  if isNull element then (.error (.staleRef "Cannot retain a null native object"), store)
  else match store.lookup element with
    | some token => (.ok token, store)
    | none =>
      if maxObjects ≤ store.tokens.card then
        (.error ((AdapterError.internal "Retained object capacity exhausted").withSuggestion
          "End this session and take a fresh snapshot in a new session"), store)
      else if usizeMax < store.count + 1 then
        (.error (.internal "Retained token space exhausted"), store)
      else (.ok (store.token (store.count + 1)), store.insert element)

/-- A store holds an element under a token. -/
def Holds (store : RetainedStore E) (token : String) (element : E) : Prop :=
  ∃ hash, (token, element) ∈ store.buckets hash

/-- The token that is issued for an element, if one is. -/
def issuedFor (store : RetainedStore E) (element : E) : Option String :=
  if (store.lookup element).isNone then (store.capture element).1.toOption else none

/-- **One use of a store**, with the token that was issued: an element is captured, or what is not
live is let go. -/
inductive Used : RetainedStore E → Option String → RetainedStore E → Prop
  /-- An element is captured. -/
  | captured (store : RetainedStore E) (element : E) :
    Used store (store.issuedFor element) (store.capture element).2
  /-- What is not live is let go. -/
  | retained (store : RetainedStore E) (live : Finset String) :
    Used store none (store.retain live)

/-! ## What a capture does -/

/-- **The four ways a capture ends.** -/
theorem capture_cases (store : RetainedStore E) (element : E) :
    (∃ error, store.capture element = (.error error, store))
      ∨ (isNull element = false
        ∧ ∃ token, store.lookup element = some token ∧ store.capture element = (.ok token, store))
      ∨ (isNull element = false ∧ store.lookup element = none ∧ store.tokens.card < maxObjects
        ∧ store.capture element = (.ok (store.token (store.count + 1)), store.insert element)) := by
  unfold capture
  by_cases hnull : isNull element = true
  · rw [if_pos hnull]
    exact Or.inl ⟨_, rfl⟩
  rw [if_neg hnull]
  have hnull : isNull element = false := Bool.eq_false_iff.mpr hnull
  cases hlookup : store.lookup element with
  | some token => exact Or.inr (Or.inl ⟨hnull, token, rfl, rfl⟩)
  | none =>
    show _ ∨ _ ∨ (_ ∧ _ ∧ _ ∧ (if _ then _ else _) = _)
    by_cases hfull : maxObjects ≤ store.tokens.card
    · exact Or.inl ⟨_, if_pos hfull⟩
    by_cases hspace : usizeMax < store.count + 1
    · exact Or.inl ⟨_, (if_neg hfull).trans (if_pos hspace)⟩
    · exact Or.inr (Or.inr ⟨hnull, rfl, Nat.lt_of_not_le hfull,
        (if_neg hfull).trans (if_neg hspace)⟩)

theorem capture_of_error {store : RetainedStore E} {element : E} {error : AdapterError}
    (h : (store.capture element).1 = .error error) : (store.capture element).2 = store := by
  rcases store.capture_cases element with ⟨_, hcapture⟩ | ⟨-, _, -, hcapture⟩ | ⟨-, -, -, hcapture⟩
  · rw [hcapture]
  · rw [hcapture]
  · rw [hcapture] at h
    exact absurd h (by simp)

theorem capture_of_full {store : RetainedStore E} {element : E}
    (hlookup : store.lookup element = none) (hfull : maxObjects ≤ store.tokens.card) :
    ∃ error, store.capture element = (.error error, store) := by
  rcases store.capture_cases element with h | ⟨-, _, hsome, -⟩ | ⟨-, -, hcard, -⟩
  · exact h
  · exact absurd (hlookup.symm.trans hsome) (by simp)
  · exact absurd hfull (Nat.not_le_of_lt hcard)

theorem lookup_eq_some {store : RetainedStore E} {element : E} {token : String}
    (h : store.lookup element = some token) :
    ∃ held, (token, held) ∈ store.buckets (elementHash element)
      ∧ sameElement held element = true := by
  obtain ⟨⟨token', held⟩, hfind, htoken⟩ := Option.map_eq_some_iff.mp h
  obtain rfl : token' = token := htoken
  have hsame := List.find?_some hfind
  exact ⟨held, List.mem_of_find?_eq_some hfind, hsame⟩

theorem lookup_eq_none {store : RetainedStore E} {element : E} (h : store.lookup element = none) :
    ∀ entry ∈ store.buckets (elementHash element), sameElement entry.2 element = false := by
  intro entry hmem
  have hfind := List.find?_eq_none.mp (Option.map_eq_none_iff.mp h) entry hmem
  exact Bool.eq_false_iff.mpr hfind

/-! ## What every use keeps

A token is a number, and the count of the store has passed every token that was issued. So a new one
is new for the whole run, and letting go of an element never makes its token free. -/

/-- **A consistent store.** -/
structure Consistent (store : RetainedStore E) : Prop where
  /-- An element is in the bucket of its hash. -/
  hashed : ∀ hash entry, entry ∈ store.buckets hash → elementHash entry.2 = hash
  /-- A token that is held was issued. -/
  numbered : ∀ token element, store.Holds token element →
    ∃ number ≤ store.count, 0 < number ∧ token = store.token number
  /-- A token stands for one element only. -/
  single : ∀ token element element', store.Holds token element → store.Holds token element' →
    element = element'
  /-- An element is held once only. -/
  distinct : ∀ token token' element element', store.Holds token element →
    store.Holds token' element' → sameElement element element' = true → token = token'
  /-- The set of tokens is that of the tokens held. -/
  indexed : ∀ token, token ∈ store.tokens ↔ ∃ element, store.Holds token element

omit [NativeElement E] in
theorem token_injective (store : RetainedStore E) : Function.Injective store.token := by
  intro m n h
  have hlist : (toString m).toList = (toString n).toList := by
    have h := congrArg String.toList h
    simpa only [token, String.toList_append, List.append_cancel_left_eq] using h
  exact refIdOf_injective (congrArg ("@e" ++ ·) (String.toList_injective hlist))

theorem consistent_new (generation : String) : Consistent (new generation : RetainedStore E) where
  hashed _ _ hmem := absurd hmem List.not_mem_nil
  numbered _ _ hholds := absurd hholds.choose_spec List.not_mem_nil
  single _ _ _ hholds := absurd hholds.choose_spec List.not_mem_nil
  distinct _ _ _ _ hholds := absurd hholds.choose_spec List.not_mem_nil
  indexed token := ⟨fun hmem => absurd hmem (Finset.notMem_empty token),
    fun ⟨_, hholds⟩ => absurd hholds.choose_spec List.not_mem_nil⟩

omit [NativeElement E] in
theorem holds_retain {store : RetainedStore E} {live : Finset String} {token : String}
    {element : E} :
    (store.retain live).Holds token element ↔ store.Holds token element ∧ token ∈ live := by
  unfold Holds retain
  simp only [List.mem_filter, decide_eq_true_eq]
  exact exists_and_right

theorem holds_insert {store : RetainedStore E} {new : E} {token : String} {element : E} :
    (store.insert new).Holds token element
      ↔ store.Holds token element ∨ (token = store.token (store.count + 1) ∧ element = new) := by
  constructor
  · rintro ⟨hash, hmem⟩
    by_cases hhash : hash = elementHash new
    · have hmem : (token, element)
          ∈ store.buckets hash ++ [(store.token (store.count + 1), new)] := by
        rwa [← if_pos (c := hash = elementHash new) (t := store.buckets hash ++ _)
          (e := store.buckets hash) hhash]
      rcases List.mem_append.mp hmem with hmem | hmem
      · exact Or.inl ⟨hash, hmem⟩
      · exact Or.inr (Prod.mk.inj (List.mem_singleton.mp hmem))
    · refine Or.inl ⟨hash, ?_⟩
      rwa [show (store.insert new).buckets hash = store.buckets hash from if_neg hhash] at hmem
  · rintro (⟨hash, hmem⟩ | ⟨rfl, rfl⟩)
    · refine ⟨hash, ?_⟩
      show _ ∈ if hash = elementHash new then _ else _
      split_ifs
      · exact List.mem_append_left _ hmem
      · exact hmem
    · refine ⟨elementHash element, ?_⟩
      rw [show (store.insert element).buckets (elementHash element)
        = store.buckets (elementHash element) ++ [(store.token (store.count + 1), element)]
        from if_pos rfl]
      exact List.mem_append_right _ (List.mem_singleton_self _)

theorem Consistent.not_holds_next {store : RetainedStore E} (h : store.Consistent) (element : E) :
    ¬ store.Holds (store.token (store.count + 1)) element := by
  intro hholds
  obtain ⟨number, hle, -, htoken⟩ := h.numbered _ _ hholds
  have hnumber : store.count + 1 = number := store.token_injective htoken
  omega

theorem Consistent.retain {store : RetainedStore E} (h : store.Consistent)
    (live : Finset String) : (store.retain live).Consistent where
  hashed hash entry hmem := h.hashed hash entry (List.mem_of_mem_filter hmem)
  numbered token element hholds := h.numbered token element (holds_retain.mp hholds).1
  single token element element' hholds hholds' :=
    h.single token element element' (holds_retain.mp hholds).1 (holds_retain.mp hholds').1
  distinct token token' element element' hholds hholds' hsame :=
    h.distinct token token' element element' (holds_retain.mp hholds).1
      (holds_retain.mp hholds').1 hsame
  indexed token := by
    show token ∈ store.tokens.filter (· ∈ live) ↔ _
    rw [Finset.mem_filter, h.indexed token, ← exists_and_right]
    exact exists_congr (fun element => holds_retain.symm)

end Capture

section Lawful

variable [NativeElement E] [LawfulNativeElement E]

open NativeElement

theorem Consistent.lookup_of_holds {store : RetainedStore E} (h : store.Consistent)
    {token : String} {element handle : E} (hholds : store.Holds token element)
    (hsame : sameElement element handle = true) : store.lookup handle = some token := by
  obtain ⟨hash, hmem⟩ := hholds
  have hhash : elementHash handle = hash :=
    (LawfulNativeElement.hash_eq hsame).symm.trans (h.hashed hash _ hmem)
  cases hlookup : store.lookup handle with
  | none =>
    have hother := lookup_eq_none hlookup (token, element) (hhash ▸ hmem)
    exact absurd (hother.symm.trans hsame) (by simp)
  | some token' =>
    obtain ⟨held, hheld, hsame'⟩ := lookup_eq_some hlookup
    exact congrArg some (h.distinct token' token held element ⟨_, hheld⟩ ⟨hash, hmem⟩
      (LawfulNativeElement.trans hsame' (LawfulNativeElement.symm hsame)))

theorem Consistent.insert {store : RetainedStore E} (h : store.Consistent) {new : E}
    (hlookup : store.lookup new = none) : (store.insert new).Consistent where
  hashed hash entry hmem := by
    by_cases hhash : hash = elementHash new
    · rw [show (store.insert new).buckets hash = _ from if_pos hhash] at hmem
      rcases List.mem_append.mp hmem with hmem | hmem
      · exact h.hashed hash entry hmem
      · rw [List.mem_singleton.mp hmem]
        exact hhash.symm
    · rw [show (store.insert new).buckets hash = _ from if_neg hhash] at hmem
      exact h.hashed hash entry hmem
  numbered token element hholds := by
    rcases holds_insert.mp hholds with hholds | ⟨rfl, -⟩
    · obtain ⟨number, hle, hpos, htoken⟩ := h.numbered token element hholds
      exact ⟨number, Nat.le_succ_of_le hle, hpos, htoken⟩
    · exact ⟨store.count + 1, le_rfl, Nat.succ_pos _, rfl⟩
  single token element element' hholds hholds' := by
    rcases holds_insert.mp hholds with hholds | ⟨rfl, rfl⟩
    · rcases holds_insert.mp hholds' with hholds' | ⟨rfl, -⟩
      · exact h.single token element element' hholds hholds'
      · exact absurd hholds (h.not_holds_next element)
    · rcases holds_insert.mp hholds' with hholds' | ⟨-, rfl⟩
      · exact absurd hholds' (h.not_holds_next element')
      · rfl
  distinct token token' element element' hholds hholds' hsame := by
    -- an element that is the same as the new one would have been found
    have hnew {token : String} {element : E} (hholds : store.Holds token element) :
        sameElement element new ≠ true := fun hsame =>
      absurd (hlookup.symm.trans (h.lookup_of_holds hholds hsame)) (by simp)
    rcases holds_insert.mp hholds with hheld | ⟨htoken, heq⟩
    · rcases holds_insert.mp hholds' with hheld' | ⟨-, heq'⟩
      · exact h.distinct token token' element element' hheld hheld' hsame
      · exact absurd (heq' ▸ hsame) (hnew hheld)
    · rcases holds_insert.mp hholds' with hheld' | ⟨htoken', -⟩
      · exact absurd (LawfulNativeElement.symm (heq ▸ hsame)) (hnew hheld')
      · exact htoken.trans htoken'.symm
  indexed token := by
    show token ∈ Insert.insert _ store.tokens ↔ _
    rw [Finset.mem_insert, h.indexed token]
    constructor
    · rintro (rfl | ⟨element, hholds⟩)
      · exact ⟨new, holds_insert.mpr (Or.inr ⟨rfl, rfl⟩)⟩
      · exact ⟨element, holds_insert.mpr (Or.inl hholds)⟩
    · rintro ⟨element, hholds⟩
      rcases holds_insert.mp hholds with hholds | ⟨rfl, -⟩
      · exact Or.inr ⟨element, hholds⟩
      · exact Or.inl rfl

theorem Consistent.capture {store : RetainedStore E} (h : store.Consistent) (element : E) :
    (store.capture element).2.Consistent := by
  rcases store.capture_cases element with ⟨_, hcapture⟩ | ⟨-, _, -, hcapture⟩
    | ⟨-, hlookup, -, hcapture⟩
  · rwa [hcapture]
  · rwa [hcapture]
  · rw [hcapture]
    exact h.insert hlookup

theorem Consistent.used {store store' : RetainedStore E} {issued : Option String}
    (h : store.Consistent) (hstep : Used store issued store') : store'.Consistent := by
  cases hstep with
  | captured element => exact h.capture element
  | retained live => exact h.retain live

/-! ## Runs -/

/-- **The tokens that were issued**: each is one of those the count has passed, and none was issued
twice. -/
structure Issued (generation : String) (issued : List String) (store : RetainedStore E) : Prop where
  /-- The generation stays. -/
  same : store.generation = generation
  /-- Every one has a number up to the count. -/
  counted : ∀ token ∈ issued, ∃ number ≤ store.count, token = store.token number
  nodup : issued.Nodup

omit [LawfulNativeElement E] in
/-- What was issued in a run, by induction on it: a token that is issued is the next one. -/
theorem issued_of_runs {generation : String} {issued : List String} {store : RetainedStore E}
    (hrun : Runs Used (new generation) issued store) : Issued generation issued store := by
  induction hrun with
  | refl => exact ⟨rfl, fun _ hmem => absurd hmem List.not_mem_nil, List.nodup_nil⟩
  | @snoc issued store store' token hrun hstep ih =>
    cases hstep with
    | retained live =>
      show Issued generation (issued ++ []) (store.retain live)
      rw [List.append_nil]
      exact ⟨ih.same, ih.counted, ih.nodup⟩
    | captured element =>
      unfold issuedFor
      rcases store.capture_cases element with ⟨error, hcapture⟩ | ⟨-, _, hlookup, hcapture⟩
        | ⟨-, hlookup, -, hcapture⟩
      · -- the capture fails
        have hnone : (if (store.lookup element).isNone then (Except.error error, store).1.toOption
            else none : Option String) = none := ite_self none
        rw [hcapture, hnone]
        show Issued generation (issued ++ []) store
        rwa [List.append_nil]
      · -- the element was found, under the token it has
        rw [hcapture, hlookup]
        show Issued generation (issued ++ []) store
        rwa [List.append_nil]
      · -- the next number is given out
        rw [hcapture, hlookup]
        show Issued generation (issued ++ [store.token (store.count + 1)]) (store.insert element)
        refine ⟨ih.same, ?_, ?_⟩
        · refine List.forall_mem_append.mpr ⟨fun token hmem => ?_, ?_⟩
          · obtain ⟨number, hle, htoken⟩ := ih.counted token hmem
            exact ⟨number, Nat.le_succ_of_le hle, htoken⟩
          · exact List.forall_mem_singleton.mpr ⟨store.count + 1, le_rfl, rfl⟩
        · refine ih.nodup.append (List.nodup_singleton _) ?_
          rw [List.disjoint_singleton]
          intro hmem
          obtain ⟨number, hle, htoken⟩ := ih.counted _ hmem
          have hnumber : store.count + 1 = number := store.token_injective htoken
          omega

/-- **A store keeps the identity of its elements**, over every sequence of captures and retentions.
No token is issued twice. Elements that are held and are not the same have different tokens. An
element that is held is captured under the token it has, whatever handle it is captured by, and
nothing changes. A token is in the set exactly when it is in a bucket. And a full store answers a
new element with an error and stays as it is, as after every other error. -/
theorem retained_store_keeps_identity {generation : String} {issued : List String}
    {store : RetainedStore E} (hrun : Runs Used (new generation) issued store) :
    issued.Nodup
      ∧ (∀ token token' element element', store.Holds token element →
        store.Holds token' element' → sameElement element element' = false → token ≠ token')
      ∧ (∀ token element handle, store.Holds token element → sameElement element handle = true →
        isNull handle = false → store.capture handle = (.ok token, store))
      ∧ (∀ token, store.containsToken token = true
        ↔ ∃ hash, token ∈ (store.buckets hash).map Prod.fst)
      ∧ (∀ element, store.lookup element = none → maxObjects ≤ store.tokens.card →
        ∃ error, store.capture element = (.error error, store))
      ∧ ∀ element error, (store.capture element).1 = .error error →
        (store.capture element).2 = store := by
  have hconsistent : store.Consistent := hrun.invariant (consistent_new generation)
    (fun _ _ _ h hstep => h.used hstep)
  refine ⟨(issued_of_runs hrun).nodup, ?_, ?_, ?_, fun _ => capture_of_full,
    fun _ _ => capture_of_error⟩
  · rintro token token' element element' hholds hholds' hother rfl
    obtain rfl := hconsistent.single token element element' hholds hholds'
    exact absurd ((LawfulNativeElement.refl element).symm.trans hother) (by simp)
  · intro token element handle hholds hsame hnull
    have hlookup := hconsistent.lookup_of_holds hholds hsame
    unfold capture
    rw [if_neg (by simp [hnull]), hlookup]
  · intro token
    unfold containsToken
    rw [decide_eq_true_iff, hconsistent.indexed token]
    constructor
    · rintro ⟨element, hash, hmem⟩
      exact ⟨hash, List.mem_map_of_mem hmem⟩
    · rintro ⟨hash, hmem⟩
      obtain ⟨⟨token', element⟩, hentry, htoken⟩ := List.mem_map.mp hmem
      obtain rfl : token' = token := htoken
      exact ⟨element, hash, hentry⟩

end Lawful

end RetainedStore

namespace Sample

/-- Elements that are numbers, with two handles for each; all of them have one hash. -/
instance numberedElement : NativeElement (ℕ × Bool) where
  isNull element := element.1 == 0
  sameElement element element' := element.1 == element'.1
  elementHash _ := 0

instance : LawfulNativeElement (ℕ × Bool) where
  refl _ := beq_self_eq_true _
  symm h := beq_iff_eq.mpr (beq_iff_eq.mp h).symm
  trans h h' := beq_iff_eq.mpr ((beq_iff_eq.mp h).trans (beq_iff_eq.mp h'))
  hash_eq _ := rfl

/-- Two elements were captured, and only the second one is live. -/
def prunedStore : RetainedStore (ℕ × Bool) :=
  ((((RetainedStore.new "host").capture (1, true)).2.capture (2, true)).2).retain {"host:2"}

end Sample

/-- A store after two captures and a retention: what was let go gets a new token, what is held keeps
its own. -/
theorem prunedStore_keeps_identity :
    ["host:1", "host:2"].Nodup
      ∧ Sample.prunedStore.capture (2, false) = (.ok "host:2", Sample.prunedStore)
      ∧ (Sample.prunedStore.capture (1, false)).1.toOption = some "host:3" := by
  have hrun : Runs RetainedStore.Used (RetainedStore.new "host") ["host:1", "host:2"]
      Sample.prunedStore :=
    ((Runs.refl.snoc (RetainedStore.Used.captured _ (1, true))).snoc
      (RetainedStore.Used.captured _ (2, true))).snoc (RetainedStore.Used.retained _ {"host:2"})
  have h := RetainedStore.retained_store_keeps_identity hrun
  refine ⟨h.1, h.2.2.1 "host:2" (2, true) (2, false) ⟨0, by decide⟩ rfl rfl, by decide⟩

end AgentDesktop
