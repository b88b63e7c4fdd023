import Mathlib.Data.List.Chain
import AgentDesktop.Reference

/-!
# An authoritative first match is the first

A completion that respects the order of the siblings may put a missing node in two
kinds of places only: directly before a child whose earlier siblings were not all
seen, and after the last child of a node whose subtree was not. The first match
is authoritative when neither kind of gap, and no open verdict, stands before it.
Then everything before it is copied place by place into the completion, and
stays what it was.

The walk the code makes is over the chain of ancestors. It is read here as a
derivation `LeadsTo` that descends from the roots to the match, and the copy is
built along it.
-/

namespace AgentDesktop

/-! ## Inserting siblings -/

/-- **What a completion does to a list of siblings**: further ones are put directly
before a sibling with a gap before it, or after the last when something is
missing there. -/
inductive Inserted (image : ℕ → ℕ) (gapBefore : ℕ → Prop) (gapAfter : Prop) :
    List ℕ → List ℕ → Prop
  /-- What follows the last sibling. -/
  | nil (added : List ℕ) (h : added ≠ [] → gapAfter) :
    Inserted image gapBefore gapAfter [] added
  /-- What is put before a sibling. -/
  | cons {sibling : ℕ} {rest rest' : List ℕ} (added : List ℕ)
    (h : added ≠ [] → gapBefore sibling)
    (hrest : Inserted image gapBefore gapAfter rest rest') :
    Inserted image gapBefore gapAfter (sibling :: rest) (added ++ image sibling :: rest')

namespace Inserted

variable {image : ℕ → ℕ} {gapBefore : ℕ → Prop} {gapAfter : Prop} {rs rs' : List ℕ}

theorem sublist (h : Inserted image gapBefore gapAfter rs rs') :
    (rs.map image).Sublist rs' := by
  induction h with
  | nil added _ => exact List.nil_sublist added
  | cons added _ _ ih => exact (ih.cons_cons _).trans (List.sublist_append_right added _)

theorem append_cons {pre post : List ℕ} {n : ℕ}
    (h : Inserted image gapBefore gapAfter (pre ++ n :: post) rs')
    (hpre : ∀ r ∈ pre, ¬ gapBefore r) (hn : ¬ gapBefore n) :
    ∃ post', rs' = pre.map image ++ image n :: post' := by
  induction pre generalizing rs' with
  | nil =>
    cases h with
    | @cons _ _ rest' added hadded _ =>
      obtain rfl : added = [] := not_not.mp (fun hne => hn (hadded hne))
      exact ⟨rest', rfl⟩
  | cons r pre ih =>
    cases h with
    | @cons _ _ rest' added hadded hrest =>
      obtain rfl : added = [] :=
        not_not.mp (fun hne => hpre r List.mem_cons_self (hadded hne))
      obtain ⟨post', rfl⟩ := ih hrest (fun r hr => hpre r (List.mem_cons_of_mem _ hr))
      exact ⟨post', rfl⟩

theorem eq_map (h : Inserted image gapBefore gapAfter rs rs')
    (hbefore : ∀ r ∈ rs, ¬ gapBefore r) (hafter : ¬ gapAfter) : rs' = rs.map image := by
  induction h with
  | nil added hadded => exact not_not.mp (fun hne => hafter (hadded hne))
  | @cons r rest rest' added hadded hrest ih =>
    obtain rfl : added = [] :=
      not_not.mp (fun hne => hbefore r List.mem_cons_self (hadded hne))
    rw [ih (fun r hr => hbefore r (List.mem_cons_of_mem _ hr))]
    rfl

end Inserted

/-! ## Completions that respect the order

That a match is the first says something about places, and so a completion has to say where it adds
nodes. It may do so only where the observation marks a gap: before a sibling, or after the last one.
-/

/-- What an ordered completion does to one node. -/
structure OrderedCompletesNode (tree : ObservedTree) (image : ℕ → ℕ)
    (node node' : ObservedNode) : Prop where
  /-- The evidence is refined. -/
  evidence : node.evidence.Refines node'.evidence
  /-- Children are inserted only where some are missing. -/
  children : Inserted image (fun child => tree.predecessorsComplete child = false)
    (node.completeness.subtreeComplete = false) node.children node'.children
  /-- A complete node stays complete. -/
  complete : node.completeness.subtreeComplete = true →
    node'.completeness.subtreeComplete = true

/-- **A completion that respects the order of the siblings**, the roots among
them. -/
structure OrderedCompletion (tree tree' : ObservedTree) where
  /-- Where a node stands in the completed tree. -/
  image : ℕ → ℕ
  /-- Every node is there, completed. -/
  completes : ∀ n node, tree.nodes[n]? = some node →
    ∃ node', tree'.nodes[image n]? = some node' ∧ OrderedCompletesNode tree image node node'
  /-- Roots are inserted only where some are missing. -/
  roots : Inserted image (fun root => tree.predecessorsComplete root = false)
    (tree.structurallyComplete = false) tree.roots tree'.roots

/-- **A missing sibling is marked at the parent**: a node that is marked complete has
no child with a gap before it, and a complete tree no such root. -/
structure ObservedTree.GapsMarked (tree : ObservedTree) : Prop where
  /-- Below a complete node. -/
  children : ∀ node ∈ tree.nodes, node.completeness.subtreeComplete = true →
    ∀ child ∈ node.children, tree.predecessorsComplete child = true
  /-- Among the roots of a complete tree. -/
  roots : tree.structurallyComplete = true →
    ∀ root ∈ tree.roots, tree.predecessorsComplete root = true

namespace OrderedCompletion

variable {tree tree' : ObservedTree}

theorem closed (h : OrderedCompletion tree tree') (hgaps : tree.GapsMarked)
    {node node' : ObservedNode} (hmem : node ∈ tree.nodes)
    (hnode : OrderedCompletesNode tree h.image node node')
    (hcomplete : node.completeness.subtreeComplete = true) :
    node'.children = node.children.map h.image :=
  hnode.children.eq_map
    (fun child hchild => by simp [hgaps.children node hmem hcomplete child hchild])
    (by simp [hcomplete])

/-- Where gaps are marked, an ordered completion is a completion. -/
def toCompletion (h : OrderedCompletion tree tree') (hgaps : tree.GapsMarked) :
    Completion tree tree' where
  image := h.image
  completes n node hget := by
    obtain ⟨node', hget', hnode⟩ := h.completes n node hget
    exact ⟨node', hget', hnode.evidence, hnode.children.sublist,
      h.closed hgaps (List.mem_of_getElem? hget) hnode, hnode.complete⟩

/-- **A complete block is copied place by place.** -/
theorem copied (h : OrderedCompletion tree tree') (hgaps : tree.GapsMarked)
    {i k i' k' : ℕ} {rs : List ℕ} (hlaid : Laid (childrenAt tree.nodes) i rs k)
    (hlaid' : Laid (childrenAt tree'.nodes) i' (rs.map h.image) k')
    (hk : k ≤ tree.nodes.length)
    (hcomplete : ∀ n, i ≤ n → n < k → subtreeCompleteAt tree.nodes n = true) :
    k' + i = k + i' ∧ ∀ n, i ≤ n → n < k → h.image n + i = n + i' := by
  refine hlaid.copied hlaid' (fun n hi hn => ?_)
  have hget : tree.nodes[n]? = some tree.nodes[n] :=
    List.getElem?_eq_getElem (Nat.lt_of_lt_of_le hn hk)
  obtain ⟨node', hget', hnode⟩ := h.completes n _ hget
  have hfull := hcomplete n hi hn
  rw [subtreeCompleteAt_of_getElem? hget] at hfull
  rw [childrenAt_of_getElem? hget, childrenAt_of_getElem? hget']
  exact h.closed hgaps (List.mem_of_getElem? hget) hnode hfull

end OrderedCompletion

/-! ## The walk of the code -/

/-- The entries before `x` in a list in which it was found. -/
theorem exists_split_of_idxOf? {l : List ℕ} {x order : ℕ} (h : l.idxOf? x = some order) :
    ∃ post, l = l.take order ++ x :: post := by
  obtain ⟨hlt, rfl, -⟩ := List.idxOf?_eq_some_iff.mp h
  exact ⟨l.drop (order + 1), by
    rw [← List.drop_eq_getElem_cons hlt, List.take_append_drop]⟩

section

variable {tree : ObservedTree} {verdicts : List MatchVerdict} {target : ℕ}

/-- A node at which nothing is missing or open. -/
structure CertainAt (tree : ObservedTree) (verdicts : List MatchVerdict) (n : ℕ) :
    Prop where
  /-- Nothing is missing below it. -/
  complete : subtreeCompleteAt tree.nodes n = true
  /-- Its verdict is settled. -/
  settled : verdicts[n]? ≠ some .unknown

/-- The subtrees of the siblings before a node are authoritative, and there are no
others. -/
structure NothingMissingBefore (tree : ObservedTree) (verdicts : List MatchVerdict)
    (pre : List ℕ) (n : ℕ) : Prop where
  /-- The earlier siblings. -/
  authoritative : ∀ r ∈ pre,
    subtreeIsAuthoritative tree.nodes verdicts tree.nodes.length r = true
  /-- There are no others. -/
  predecessors : tree.predecessorsComplete n = true

/-- **The descent to a node**, past siblings whose subtrees are authoritative. -/
inductive LeadsTo (tree : ObservedTree) (verdicts : List MatchVerdict) (target : ℕ) :
    List ℕ → Prop
  /-- The node is one of the siblings. -/
  | here {pre post : List ℕ} (hpre : NothingMissingBefore tree verdicts pre target) :
    LeadsTo tree verdicts target (pre ++ target :: post)
  /-- The node is below one of the siblings. -/
  | under {pre post : List ℕ} {n : ℕ} (hpre : NothingMissingBefore tree verdicts pre n)
    (hsettled : verdicts[n]? ≠ some .unknown)
    (hbelow : LeadsTo tree verdicts target (childrenAt tree.nodes n)) :
    LeadsTo tree verdicts target (pre ++ n :: post)

theorem subtreeIsAuthoritative_succ {nodes : List ObservedNode} {fuel r : ℕ}
    (h : subtreeIsAuthoritative nodes verdicts (fuel + 1) r = true) :
    ∃ node, nodes[r]? = some node ∧ node.completeness.subtreeComplete = true
      ∧ node.completeness.predecessorsComplete = true ∧ verdicts[r]? ≠ some .unknown
      ∧ ∀ child ∈ node.children, subtreeIsAuthoritative nodes verdicts fuel child = true := by
  rw [subtreeIsAuthoritative] at h
  split at h
  · exact absurd h (by simp)
  · rename_i node hnode
    split_ifs at h with hopen
    simp only [Bool.or_eq_true, Bool.not_eq_true', beq_iff_eq, not_or] at hopen
    exact ⟨node, hnode, by simpa using hopen.1.1, by simpa using hopen.1.2, hopen.2,
      List.all_eq_true.mp h⟩

theorem certainAt_of_authoritative {i k : ℕ} {rs : List ℕ}
    (h : Laid (childrenAt tree.nodes) i rs k) {fuel : ℕ}
    (hrs : ∀ r ∈ rs, subtreeIsAuthoritative tree.nodes verdicts fuel r = true) :
    ∀ n, i ≤ n → n < k → CertainAt tree verdicts n := by
  induction h generalizing fuel with
  | nil i => exact fun n hi hk => absurd hi (by omega)
  | @cons i j k rs below rest ihBelow ihRest =>
    intro n hi hk
    have hroot := hrs i List.mem_cons_self
    cases fuel with
    | zero => exact absurd hroot (by simp [subtreeIsAuthoritative])
    | succ fuel =>
      obtain ⟨node, hnode, hcomplete, -, hsettled, hchildren⟩ :=
        subtreeIsAuthoritative_succ hroot
      rcases Nat.eq_or_lt_of_le hi with rfl | hlt
      · exact ⟨(subtreeCompleteAt_of_getElem? hnode).trans hcomplete, hsettled⟩
      · rcases Nat.lt_or_ge n j with hj | hj
        · rw [childrenAt_of_getElem? hnode] at ihBelow
          exact ihBelow hchildren n hlt hj
        · exact ihRest (fun r hr => hrs r (List.mem_cons_of_mem _ hr)) n hj hk

theorem NothingMissingBefore.no_gap {pre : List ℕ} {n : ℕ}
    (h : NothingMissingBefore tree verdicts pre n) :
    ∀ r ∈ pre, ¬ tree.predecessorsComplete r = false := by
  intro r hr
  have hroot := h.authoritative r hr
  cases hlen : tree.nodes.length with
  | zero =>
    rw [hlen] at hroot
    exact absurd hroot (by simp [subtreeIsAuthoritative])
  | succ fuel =>
    rw [hlen] at hroot
    obtain ⟨node, hnode, -, hpred, -⟩ := subtreeIsAuthoritative_succ hroot
    simp [ObservedTree.predecessorsComplete, hnode, hpred]

theorem predecessorsComplete_of_any {n : ℕ}
    (h : tree.nodes[n]?.any
      (fun node : ObservedNode => node.completeness.predecessorsComplete) = true) :
    tree.predecessorsComplete n = true := by
  unfold ObservedTree.predecessorsComplete
  cases hnode : tree.nodes[n]? with
  | none => rw [hnode] at h; exact absurd h (by simp)
  | some node => rw [hnode] at h; simpa using h

theorem step_of_pairIsAuthoritative {p c : ℕ}
    (h : pairIsAuthoritative tree.nodes verdicts (p, c) = true) :
    verdicts[p]? ≠ some .unknown ∧ ∃ pre post, childrenAt tree.nodes p = pre ++ c :: post
      ∧ NothingMissingBefore tree verdicts pre c := by
  unfold pairIsAuthoritative at h
  split_ifs at h with hopen hpred
  · split at h <;> exact absurd h (by simp)
  split at h
  · exact absurd h (by simp)
  · rename_i node hnode
    split at h
    · exact absurd h (by simp)
    · rename_i order horder
      obtain ⟨post, hsplit⟩ := exists_split_of_idxOf? horder
      refine ⟨fun hunknown => hopen (by rw [hunknown]; rfl), _, post,
        (childrenAt_of_getElem? hnode).trans hsplit, List.all_eq_true.mp h, ?_⟩
      exact predecessorsComplete_of_any (by simpa using hpred)

theorem isChain_of_all_zip_tail {l : List ℕ} {f : ℕ × ℕ → Bool}
    (h : (l.zip l.tail).all f = true) : l.IsChain (fun a b => f (a, b) = true) := by
  induction l with
  | nil => exact .nil
  | cons a l ih =>
    cases l with
    | nil => exact .singleton a
    | cons b l =>
      rw [List.tail_cons, List.zip_cons_cons, List.all_cons, Bool.and_eq_true] at h
      exact .cons_cons h.1 (ih h.2)

theorem LeadsTo.of_isChain {x last : ℕ} {l : List ℕ}
    (hchain : (x :: l).IsChain
      (fun child p => pairIsAuthoritative tree.nodes verdicts (p, child) = true))
    (hlast : (x :: l).getLast? = some last)
    (hx : ∀ pre post, NothingMissingBefore tree verdicts pre x →
      LeadsTo tree verdicts target (pre ++ x :: post)) :
    ∀ pre post, NothingMissingBefore tree verdicts pre last →
      LeadsTo tree verdicts target (pre ++ last :: post) := by
  induction l generalizing x with
  | nil =>
    obtain rfl : x = last := Option.some.inj hlast
    exact hx
  | cons p l ih =>
    obtain ⟨hpair, hchain⟩ := List.isChain_cons_cons.mp hchain
    obtain ⟨hsettled, pre', post', hchildren, hpre'⟩ := step_of_pairIsAuthoritative hpair
    rw [List.getLast?_cons_cons] at hlast
    refine ih hchain hlast (fun pre post hpre => .under hpre hsettled ?_)
    rw [hchildren]
    exact hx pre' post' hpre'

/-- **The walk of the code is a descent from the roots.** -/
theorem leadsTo_of_firstIsAuthoritative {parents : List (Option ℕ)}
    (h : firstIsAuthoritative tree target parents verdicts = true) :
    LeadsTo tree verdicts target tree.roots := by
  unfold firstIsAuthoritative at h
  simp only at h
  split at h
  · exact absurd h (by simp)
  · rename_i root hroot
    split_ifs at h with hpred hpairs
    · split at h
      · exact absurd h (by simp)
      · split_ifs at h
    split at h
    · exact absurd h (by simp)
    · rename_i order horder
      split_ifs at h with hearlier
      obtain ⟨post, hsplit⟩ := exists_split_of_idxOf? horder
      rw [hsplit]
      rw [List.head?_reverse] at hroot
      have hchain := List.isChain_reverse.mp
        (isChain_of_all_zip_tail (by simpa using hpairs))
      cases hlen : tree.nodes.length with
      | zero => rw [hlen] at hroot; exact absurd hroot (by simp [ancestorsFrom])
      | succ fuel =>
        rw [hlen, ancestorsFrom] at hroot hchain
        refine LeadsTo.of_isChain hchain hroot (fun pre post hpre => .here hpre) _ post ⟨?_, ?_⟩
        · rw [Bool.not_eq_true, Bool.not_eq_false'] at hearlier
          exact List.all_eq_true.mp hearlier
        · exact predecessorsComplete_of_any (by simpa using hpred)

/-! ## The copy along the descent

The walk of the code goes down from the roots and asks at each level whether the siblings before it
are settled. Along the same descent the completion copies the tree place by place, so the match
keeps its place. -/

variable {tree' : ObservedTree}

/-- Every place of a block, up to the copy of a node, holds the copy of an earlier
node whose verdict is settled. -/
def CopiedUpTo (image : ℕ → ℕ) (verdicts : List MatchVerdict) (start n : ℕ) : Prop :=
  ∀ j, start ≤ j → j < image n →
    ∃ m, m < n ∧ image m = j ∧ verdicts[m]? ≠ some .unknown

theorem NothingMissingBefore.copied (h : OrderedCompletion tree tree') (hgaps : tree.GapsMarked)
    {pre post rs' : List ℕ} {n i k i' k' : ℕ} {gapAfter : Prop}
    (hpre : NothingMissingBefore tree verdicts pre n)
    (hlaid : Laid (childrenAt tree.nodes) i (pre ++ n :: post) k)
    (hlaid' : Laid (childrenAt tree'.nodes) i' rs' k') (hk : k ≤ tree.nodes.length)
    (hinserted : Inserted h.image (fun r => tree.predecessorsComplete r = false) gapAfter
      (pre ++ n :: post) rs') :
    i ≤ n ∧ n < k
      ∧ (∃ j ≤ k, Laid (childrenAt tree.nodes) (n + 1) (childrenAt tree.nodes n) j)
      ∧ (∃ j', Laid (childrenAt tree'.nodes) (h.image n + 1)
        (childrenAt tree'.nodes (h.image n)) j')
      ∧ CopiedUpTo h.image verdicts i' n := by
  obtain ⟨post', rfl⟩ := hinserted.append_cons hpre.no_gap (by simp [hpre.predecessors])
  obtain ⟨start, hbefore, hfrom⟩ := hlaid.split
  obtain ⟨start', hbefore', hfrom'⟩ := hlaid'.split
  cases hfrom with
  | @cons _ j _ _ below rest =>
    cases hfrom' with
    | @cons _ j' _ _ below' rest' =>
      have hi := hbefore.le
      have hi' := hbefore'.le
      have hbelow := below.le
      have hrest := rest.le
      have hcertain := certainAt_of_authoritative hbefore hpre.authoritative
      obtain ⟨hend, hcopied⟩ := h.copied hgaps hbefore hbefore' (by omega)
        (fun m hm hlt => (hcertain m hm hlt).complete)
      refine ⟨hi, by omega, ⟨j, hrest, below⟩, ⟨j', below'⟩, fun place hplace hlt => ?_⟩
      -- a place of the copied block is as far from its start as the node it copies
      have hm := hcopied (place - i' + i) (by omega) (by omega)
      exact ⟨place - i' + i, by omega, by omega, (hcertain _ (by omega) (by omega)).settled⟩

/-- **The descent is copied**: every place before the copy of the target holds the copy
of a node before the target, whose verdict is settled. -/
theorem LeadsTo.copied (h : OrderedCompletion tree tree') (hgaps : tree.GapsMarked)
    {rs : List ℕ} (hleads : LeadsTo tree verdicts target rs) {rs' : List ℕ}
    {i k i' k' : ℕ} {gapAfter : Prop} (hlaid : Laid (childrenAt tree.nodes) i rs k)
    (hlaid' : Laid (childrenAt tree'.nodes) i' rs' k') (hk : k ≤ tree.nodes.length)
    (hinserted : Inserted h.image (fun r => tree.predecessorsComplete r = false) gapAfter
      rs rs') :
    i ≤ target ∧ target < k ∧ CopiedUpTo h.image verdicts i' target := by
  induction hleads generalizing rs' i k i' k' gapAfter with
  | here hpre =>
    obtain ⟨hi, hlt, -, -, hcopied⟩ := hpre.copied h hgaps hlaid hlaid' hk hinserted
    exact ⟨hi, hlt, hcopied⟩
  | @under pre post n hpre hsettled _ ih =>
    obtain ⟨hi, hlt, ⟨j, hj, hbelow⟩, ⟨j', hbelow'⟩, hcopied⟩ :=
      hpre.copied h hgaps hlaid hlaid' hk hinserted
    have hget : tree.nodes[n]? = some tree.nodes[n] :=
      List.getElem?_eq_getElem (Nat.lt_of_lt_of_le hlt hk)
    obtain ⟨node', hget', hnode⟩ := h.completes n _ hget
    have hchildren := hnode.children
    rw [← childrenAt_of_getElem? hget, ← childrenAt_of_getElem? hget'] at hchildren
    obtain ⟨hn, htarget, hdeeper⟩ := ih hbelow hbelow' (hj.trans hk) hchildren
    refine ⟨by omega, by omega, fun place hplace hend => ?_⟩
    rcases Nat.lt_trichotomy place (h.image n) with hp | hp | hp
    · obtain ⟨m, hm, hcopy, hverdict⟩ := hcopied place hplace hp
      exact ⟨m, by omega, hcopy, hverdict⟩
    · exact ⟨n, hn, hp.symm, hsettled⟩
    · exact hdeeper place hp hend

theorem OrderedCompletion.copied_of_complete (h : OrderedCompletion tree tree')
    (hgaps : tree.GapsMarked) (hcomplete : tree.structurallyComplete = true) :
    tree'.nodes.length = tree.nodes.length ∧ ∀ n, n < tree.nodes.length → h.image n = n := by
  have hroots := h.roots.eq_map
    (fun r hr => by simp [hgaps.roots hcomplete r hr]) (by simp [hcomplete])
  obtain ⟨hlen, himage⟩ := h.copied hgaps tree.laid (hroots ▸ tree'.laid) le_rfl
    (fun n _ hn => tree.subtreeComplete_of_structurallyComplete hcomplete hn)
  exact ⟨hlen, fun n hn => himage n (Nat.zero_le n) hn⟩

end

/-! ## The first match -/

section

variable {tree tree' : ObservedTree} {query : LocatorQuery}

theorem notMem_of_lt_head {l : List ℕ} {n m : ℕ} (hsorted : l.Pairwise (· < ·))
    (hhead : l.head? = some n) (hm : m < n) : m ∉ l := by
  cases l with
  | nil => exact List.not_mem_nil
  | cons a l =>
    obtain rfl : a = n := Option.some.inj hhead
    intro hmem
    rcases List.mem_cons.mp hmem with rfl | hmem
    · exact absurd hm (lt_irrefl _)
    · exact absurd ((List.pairwise_cons.mp hsorted).1 m hmem) (by omega)

variable [UnicodeLowercase]

theorem pairwise_matchedIndices : (matchedIndices tree query).Pairwise (· < ·) :=
  List.pairwise_lt_range.filter _

theorem OrderedCompletion.noMatch (h : OrderedCompletion tree tree') (hgaps : tree.GapsMarked)
    {m : ℕ} (hm : m < tree.nodes.length) (hunmatched : m ∉ matchedIndices tree query)
    (hsettled : (verdictsOf tree query)[m]? ≠ some .unknown) :
    locatorVerdict tree' query (h.image m) = .noMatch := by
  refine (locatorVerdict_sound (h.toCompletion hgaps) query hm).2 ?_
  rw [getElem?_verdictsOf hm] at hsettled
  cases hverdict : locatorVerdict tree query m with
  | matched => exact absurd (mem_matchedIndices.mpr ⟨hm, hverdict⟩) hunmatched
  | noMatch => rfl
  | unknown => exact absurd (congrArg some hverdict) hsettled

variable {request : LocatorResolveRequest} {res : LocatorResolution}

/-- A `First` selection keeps the first match only. -/
theorem Resolved.head_matchedIndices (hres : Resolved tree query request res)
    (hfirst : request.selection = .first) {found : LocatorMatch} (hfound : found ∈ res.selected) :
    (matchedIndices tree query).head? = some found.documentOrder := by
  have hmem := List.mem_map_of_mem (f := LocatorMatch.documentOrder) hfound
  rw [hres.selected, hfirst] at hmem
  cases hlist : matchedIndices tree query with
  | nil =>
    rw [hlist] at hmem
    exact absurd hmem List.not_mem_nil
  | cons a l =>
    rw [hlist] at hmem
    rw [List.head?_cons, List.mem_singleton.mp hmem]

theorem Resolved.matchedIndices_eq_nil (hres : Resolved tree query request res)
    (hfirst : request.selection = .first) (hempty : res.selected = []) :
    matchedIndices tree query = [] := by
  have hselected := hres.selected
  rw [hempty, hfirst] at hselected
  cases hlist : matchedIndices tree query with
  | nil => rfl
  | cons a l =>
    rw [hlist] at hselected
    exact absurd hselected (List.cons_ne_nil _ _).symm

/-- **What a complete `First` selection says of the places before the match**: each holds
the copy of a node before the match, whose verdict is settled. -/
theorem Resolved.copiedUpTo (h : OrderedCompletion tree tree') (hgaps : tree.GapsMarked)
    (hres : Resolved tree query request res) (hfirst : request.selection = .first)
    (hcomplete : res.info.selectionComplete = true) {found : LocatorMatch}
    (hfound : found ∈ res.selected) :
    CopiedUpTo h.image (verdictsOf tree query) 0 found.documentOrder := by
  have hhead := hres.head_matchedIndices hfirst hfound
  rcases hres.selectionComplete hcomplete with hall | ⟨-, other, hother, hwalk⟩
  · -- the whole answer is complete: nothing is missing, and nothing is open
    obtain ⟨hstructure, hnone⟩ := hres.complete hall
    obtain ⟨-, himage⟩ := h.copied_of_complete hgaps hstructure
    have hlt := (mem_matchedIndices.mp (List.mem_of_mem_head? hhead)).1
    intro place _ hplace
    rw [himage _ hlt] at hplace
    exact ⟨place, hplace, himage _ (hplace.trans hlt),
      fun hunknown => hnone (List.mem_of_getElem? hunknown)⟩
  · -- the first match is authoritative
    have hsame : other.documentOrder = found.documentOrder :=
      Option.some.inj ((hres.head_matchedIndices hfirst hother).symm.trans hhead)
    rw [hsame] at hwalk
    exact ((leadsTo_of_firstIsAuthoritative hwalk).copied h hgaps tree.laid tree'.laid le_rfl
      h.roots).2.2

variable [BoundsHasher]

/-- **An authoritative first match is the first.** In every ordered completion of an
observed tree that marks its gaps, the node of a complete `First` selection
matches, and no node before it does; and if the complete selection is empty, no
node of the completion matches. -/
theorem first_selection_authoritative (h : OrderedCompletion tree tree')
    (hgaps : tree.GapsMarked) (hfirst : request.selection = .first)
    (hres : evaluateLocatorTree tree query request = .ok res)
    (hcomplete : res.info.selectionComplete = true) :
    (∀ found ∈ res.selected,
        locatorVerdict tree' query (h.image found.documentOrder) = .matched
          ∧ ∀ j < h.image found.documentOrder, locatorVerdict tree' query j = .noMatch)
      ∧ (res.selected = [] →
        ∀ j < tree'.nodes.length, locatorVerdict tree' query j = .noMatch) := by
  have hresolved := evaluateLocatorTree_resolved hres
  constructor
  · intro found hfound
    have hhead := hresolved.head_matchedIndices hfirst hfound
    obtain ⟨hlt, hmatched⟩ := mem_matchedIndices.mp (List.mem_of_mem_head? hhead)
    refine ⟨(locatorVerdict_sound (h.toCompletion hgaps) query hlt).1 hmatched,
      fun j hj => ?_⟩
    obtain ⟨m, hm, rfl, hsettled⟩ :=
      hresolved.copiedUpTo h hgaps hfirst hcomplete hfound j (Nat.zero_le j) hj
    exact h.noMatch hgaps (hm.trans hlt)
      (notMem_of_lt_head pairwise_matchedIndices hhead hm) hsettled
  · intro hempty j hj
    rcases hresolved.selectionComplete hcomplete with hall | ⟨-, other, hother, -⟩
    · obtain ⟨hstructure, hnone⟩ := hresolved.complete hall
      obtain ⟨hlen, himage⟩ := h.copied_of_complete hgaps hstructure
      rw [hlen] at hj
      rw [← himage j hj]
      refine h.noMatch hgaps hj ?_ (fun hunknown => hnone (List.mem_of_getElem? hunknown))
      rw [hresolved.matchedIndices_eq_nil hfirst hempty]
      exact List.not_mem_nil
    · rw [hempty] at hother
      exact absurd hother List.not_mem_nil

end

/-! ## A first match, and a gap that is not marked -/

namespace Sample

/-- A window whose children were walked up to a button. -/
def firstTree : ObservedTree :=
  (ObservedTree.fromRoots [.new (element "window" "Notes")
    [.new saveRead [] true none] false none] source stats false).toOption.get (by decide)

/-- The whole window: another button follows. -/
def followedTree : ObservedTree :=
  (ObservedTree.fromRoots [.new (element "window" "Notes")
    [.new saveRead [] true none, .new saveRead [] true none] true none]
    source stats true).toOption.get (by decide)

/-- A window that is marked complete, with a gap before its button. -/
def gapTree : ObservedTree :=
  (ObservedTree.fromRoots [.new (element "window" "Notes")
    [(ObservedSubtree.new saveRead [] true none).withPredecessorsComplete false] true none]
    source stats true).toOption.get (by decide)

/-- The other button follows the first. -/
def followedCompletion : OrderedCompletion firstTree followedTree where
  image := id
  completes n node hget := by
    match n with
    | 0 =>
      obtain rfl := Option.some.inj hget
      exact ⟨_, rfl, .refl _, .cons [] (absurd rfl) (.nil [2] (fun _ => rfl)), by decide⟩
    | 1 =>
      obtain rfl := Option.some.inj hget
      exact ⟨_, rfl, .refl _, .nil [] (absurd rfl), by decide⟩
    | n + 2 =>
      have hlen : firstTree.nodes.length ≤ n + 2 := Nat.le_add_left 2 n
      rw [List.getElem?_eq_none hlen] at hget
      exact absurd hget (by simp)
  roots := .cons [] (absurd rfl) (.nil [] (absurd rfl))

/-- The other button fills the gap before the first. -/
def gapCompletion : OrderedCompletion gapTree followedTree where
  image n := 2 * n
  completes n node hget := by
    match n with
    | 0 =>
      obtain rfl := Option.some.inj hget
      exact ⟨_, rfl, .refl _, .cons [1] (fun _ => rfl) (.nil [] (absurd rfl)), by decide⟩
    | 1 =>
      obtain rfl := Option.some.inj hget
      exact ⟨_, rfl, .refl _, .nil [] (absurd rfl), by decide⟩
    | n + 2 =>
      have hlen : gapTree.nodes.length ≤ n + 2 := Nat.le_add_left 2 n
      rw [List.getElem?_eq_none hlen] at hget
      exact absurd hget (by simp)
  roots := .cons [] (absurd rfl) (.nil [] (absurd rfl))

/-- The first match, without refs. -/
def firstRequest : LocatorResolveRequest := ⟨.first, 10, .none⟩

/-- The first button of a tree. -/
def firstButton (tree : ObservedTree) : Except AdapterError LocatorResolution :=
  @evaluateLocatorTree asciiLowercase noBoundsHash tree saveQuery firstRequest

theorem firstTree_gapsMarked : firstTree.GapsMarked where
  children := by decide
  roots := by decide

end Sample

/-- The button found first is first in the whole window. -/
theorem first_selection_authoritative_sample :
    ∃ res, Sample.firstButton Sample.firstTree = .ok res
      ∧ res.selected.map LocatorMatch.documentOrder = [1]
      ∧ ∀ found ∈ res.selected, ∀ j < found.documentOrder,
        @locatorVerdict Sample.asciiLowercase Sample.followedTree Sample.saveQuery j
          = .noMatch := by
  refine ⟨_, rfl, by decide, fun found hfound => ?_⟩
  exact ((@first_selection_authoritative _ _ Sample.saveQuery Sample.asciiLowercase
    Sample.firstRequest _ Sample.noBoundsHash Sample.followedCompletion Sample.firstTree_gapsMarked rfl rfl
    (by decide)).1 found hfound).2

/-- A gap that is not marked at the parent may hold an earlier match, although the
selection is reported complete. -/
theorem first_selection_with_unmarked_gap :
    ∃ res, Sample.firstButton Sample.gapTree = .ok res ∧ res.info.selectionComplete = true
      ∧ ∃ found ∈ res.selected, ∃ j < Sample.gapCompletion.image found.documentOrder,
        @locatorVerdict Sample.asciiLowercase Sample.followedTree Sample.saveQuery j
          = .matched :=
  ⟨_, rfl, by decide, _, List.mem_cons_self, 1, by decide, by decide⟩

end AgentDesktop
