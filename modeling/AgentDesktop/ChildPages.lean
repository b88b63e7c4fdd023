import AgentDesktop.ReadChildren

/-!
# The children are read in pages, without a gap

A list of children is read one page after the other, each from where the last one ended. A page may
bring less than was asked for, nothing, or too much, or it may fail. What is brought in the end are
the children from the first one on; nothing is asked for beyond the number that is wanted, and a
page that brings nothing ends the read.
-/

namespace AgentDesktop

namespace LocatorTraversal

variable {σ : Type}

/-- A reader of pages. -/
abbrev PageReader (σ : Type) : Type := ℕ → ℕ → Reading σ (Except AXError (List AXElement))

/-- **A reader of a list of children**: a page that brings no more than was asked for brings the
children from the index on. -/
def ReadsFrom (children : List AXElement) (readPage : PageReader σ) : Prop :=
  ∀ index pageLen state page, (readPage index pageLen state).1 = .ok page →
    page.length ≤ pageLen → page <+: children.drop index

section

variable {requested pageSize : ℕ} {readPage : PageReader σ} {elements : List AXElement}

/-- The size of a page. -/
def pageLenAt (requested pageSize : ℕ) (elements : List AXElement) : ℕ :=
  min (requested - elements.length) pageSize

end

/-! ## A run -/

section

variable {requested pageSize : ℕ} {readPage : PageReader σ}

/-- **A run of the loop**: what has been read, the state, what is asked for from here on, the result
and the state it ends in. There is one case for each way a page may turn out. -/
inductive PageRun (requested pageSize : ℕ) (readPage : PageReader σ) :
    List AXElement → ChildReadStatus × σ → List (ℕ × ℕ) → Except AXError PagedPrefix →
      ChildReadStatus × σ → Prop
  /-- Enough has been read. -/
  | enough {elements : List AXElement} {state : ChildReadStatus × σ}
      (hall : requested ≤ elements.length) :
      PageRun requested pageSize readPage elements state [] (.ok ⟨elements, false⟩) state
  /-- The page fails. -/
  | failed {elements : List AXElement} {state state' : ChildReadStatus × σ} {error : AXError}
      (hmore : elements.length < requested)
      (hread : readPage elements.length (pageLenAt requested pageSize elements) state
        = (.error error, state')) :
      PageRun requested pageSize readPage elements state
        [(elements.length, pageLenAt requested pageSize elements)] (.error error) state'
  /-- The page is too long. -/
  | tooLong {elements : List AXElement} {state state' : ChildReadStatus × σ}
      {page : List AXElement} (hmore : elements.length < requested)
      (hread : readPage elements.length (pageLenAt requested pageSize elements) state
        = (.ok page, state')) (hlong : pageLenAt requested pageSize elements < page.length) :
      PageRun requested pageSize readPage elements state
        [(elements.length, pageLenAt requested pageSize elements)] (.error ⟨-2147483648⟩) state'
  /-- The page is empty. -/
  | stalled {elements : List AXElement} {state state' : ChildReadStatus × σ}
      (hmore : elements.length < requested)
      (hread : readPage elements.length (pageLenAt requested pageSize elements) state
        = (.ok [], state')) :
      PageRun requested pageSize readPage elements state
        [(elements.length, pageLenAt requested pageSize elements)] (.ok ⟨elements, true⟩) state'
  /-- The page brings something, and the loop goes on. -/
  | page {elements : List AXElement} {state state' state'' : ChildReadStatus × σ}
      {page : List AXElement} {asked : List (ℕ × ℕ)} {result : Except AXError PagedPrefix}
      (hmore : elements.length < requested)
      (hread : readPage elements.length (pageLenAt requested pageSize elements) state
        = (.ok page, state')) (hfits : page.length ≤ pageLenAt requested pageSize elements)
      (hpage : page ≠ [])
      (rest : PageRun requested pageSize readPage (elements ++ page) state' asked result state'') :
      PageRun requested pageSize readPage elements state
        ((elements.length, pageLenAt requested pageSize elements) :: asked) result state''

namespace PageRun

variable {elements : List AXElement} {state state' : ChildReadStatus × σ} {asked : List (ℕ × ℕ)}
  {result : Except AXError PagedPrefix}

theorem length_add_pageLenAt_le (hmore : elements.length < requested) :
    elements.length + pageLenAt requested pageSize elements ≤ requested := by
  unfold pageLenAt
  omega

theorem append_isPrefix {children page : List AXElement} (hfirst : elements <+: children)
    (hpage : page <+: children.drop elements.length) : elements ++ page <+: children := by
  obtain ⟨rest, rfl⟩ := hfirst
  rw [List.drop_left] at hpage
  exact (List.prefix_append_right_inj elements).mpr hpage

/-- **What comes first is read**: the next page begins where the last one ended. -/
theorem isPrefix {children : List AXElement} (hreads : ReadsFrom children readPage)
    (run : PageRun requested pageSize readPage elements state asked result state') :
    elements <+: children → ∀ pages, result = .ok pages → pages.elements <+: children := by
  induction run with
  | enough hall =>
    rintro hfirst pages ⟨⟩
    exact hfirst
  | failed hmore hread => rintro - pages ⟨⟩
  | tooLong hmore hread hlong => rintro - pages ⟨⟩
  | stalled hmore hread =>
    rintro hfirst pages ⟨⟩
    exact hfirst
  | page hmore hread hfits hpage rest ih =>
    intro hfirst
    exact ih (append_isPrefix hfirst (hreads _ _ _ _ (congrArg Prod.fst hread) hfits))

theorem length_le
    (run : PageRun requested pageSize readPage elements state asked result state') :
    elements.length ≤ requested → ∀ pages, result = .ok pages →
      pages.elements.length ≤ requested := by
  induction run with
  | enough hall =>
    rintro hle pages ⟨⟩
    exact hle
  | failed hmore hread => rintro - pages ⟨⟩
  | tooLong hmore hread hlong => rintro - pages ⟨⟩
  | stalled hmore hread =>
    rintro hle pages ⟨⟩
    exact hle
  | page hmore hread hfits hpage rest ih =>
    intro hle
    refine ih ?_
    rw [List.length_append]
    exact (Nat.add_le_add_left hfits _).trans (length_add_pageLenAt_le hmore)

end PageRun

end

/-! ## The whole read -/

end LocatorTraversal

end AgentDesktop
