import Mathlib.Data.List.Induction
import Mathlib.Data.Multiset.Count
import Mathlib.Algebra.Ring.Nat
import AgentDesktop.Util.AssocMap

/-!
# The first new notification

Waiting for a notification means waiting until the list of notifications holds one
that it did not hold before. Notifications have no identity of their own, and their
places shift when others are dismissed, so they are told apart by what they show, and
counted: the second of two equal ones is new where there was one before.

What is new is therefore what the multiset of the list has beyond that of the first
list (`firstNewNotification_isNone_iff`).
-/

namespace AgentDesktop

/-- `NotificationInfo`. -/
structure NotificationInfo where
  /-- The place in the list. -/
  index : ℕ
  appName : String
  title : String
  /-- The text, where there is one. -/
  body : Option String
  /-- The actions it offers. -/
  actions : List String
  deriving DecidableEq

/-- `NotificationFingerprint`: what a notification shows. -/
structure NotificationFingerprint where
  appName : String
  title : String
  /-- The text, where there is one. -/
  body : Option String
  /-- The actions it offers. -/
  actions : List String
  deriving DecidableEq

/-- `NotificationFingerprint::from`. -/
def NotificationInfo.fingerprint (info : NotificationInfo) : NotificationFingerprint :=
  ⟨info.appName, info.title, info.body, info.actions⟩

/-- How often each fingerprint was counted. -/
abbrev NotificationCounts : Type := AssocMap NotificationFingerprint ℕ

namespace NotificationCounts

/-- How often a fingerprint was counted. -/
def count (counts : NotificationCounts) (fingerprint : NotificationFingerprint) : ℕ :=
  (counts.get fingerprint).getD 0

/-- `entry(fingerprint).or_insert(0) += 1`. -/
def increment (counts : NotificationCounts) (fingerprint : NotificationFingerprint) :
    NotificationCounts :=
  counts.insert fingerprint (counts.count fingerprint + 1)

end NotificationCounts

/-- `notification_counts`. -/
def notificationCounts (notifications : List NotificationInfo) : NotificationCounts :=
  notifications.foldl (fun counts notification => counts.increment notification.fingerprint)
    AssocMap.empty

/-- The loop of `first_new_notification`, once these were seen. -/
def firstNewFrom (baseline : NotificationCounts) :
    NotificationCounts → List NotificationInfo → Option NotificationInfo
  | _, [] => none
  | seen, notification :: rest =>
    let seen := seen.increment notification.fingerprint
    if baseline.count notification.fingerprint < seen.count notification.fingerprint then
      some notification
    else firstNewFrom baseline seen rest

/-- `first_new_notification`. -/
def firstNewNotification (current : List NotificationInfo) (baseline : NotificationCounts) :
    Option NotificationInfo :=
  firstNewFrom baseline AssocMap.empty current

/-! ## Counting -/

/-- What the notifications of a list show. -/
def fingerprints (notifications : List NotificationInfo) : List NotificationFingerprint :=
  notifications.map NotificationInfo.fingerprint

theorem NotificationCounts.count_increment (counts : NotificationCounts)
    (fingerprint other : NotificationFingerprint) :
    (counts.increment fingerprint).count other
      = counts.count other + if fingerprint = other then 1 else 0 := by
  unfold increment count
  rw [AssocMap.get_insert]
  by_cases hsame : other = fingerprint
  · rw [if_pos hsame, if_pos hsame.symm, hsame]
    rfl
  · rw [if_neg hsame, if_neg (Ne.symm hsame), Nat.add_zero]

theorem count_foldl_increment (notifications : List NotificationInfo) (counts : NotificationCounts)
    (fingerprint : NotificationFingerprint) :
    (notifications.foldl (fun counts notification => counts.increment notification.fingerprint)
        counts).count fingerprint
      = counts.count fingerprint + (fingerprints notifications).count fingerprint := by
  induction notifications generalizing counts with
  | nil => rfl
  | cons notification rest ih =>
    rw [List.foldl_cons, ih, NotificationCounts.count_increment]
    unfold fingerprints
    rw [List.map_cons, List.count_cons, Nat.add_assoc]
    congr 1
    rw [Nat.add_comm]
    simp only [beq_iff_eq]

theorem count_notificationCounts (notifications : List NotificationInfo)
    (fingerprint : NotificationFingerprint) :
    (notificationCounts notifications).count fingerprint
      = (fingerprints notifications).count fingerprint := by
  have hcount := count_foldl_increment notifications AssocMap.empty fingerprint
  have hzero : NotificationCounts.count AssocMap.empty fingerprint = 0 := rfl
  rw [hzero, Nat.zero_add] at hcount
  exact hcount

/-! ## The first that is new -/

/-- A notification exceeds the baseline: with those before it, it occurs more often. -/
def Exceeds (baseline before : List NotificationInfo) (notification : NotificationInfo) : Prop :=
  (fingerprints baseline).count notification.fingerprint
    < (fingerprints (before ++ [notification])).count notification.fingerprint

section IsFirst

variable {α : Type} {P : List α → α → Prop} {before current : List α} {first item : α}

/-- **An item is the first of a list** that, after those before it, has a property. -/
def IsFirst (P : List α → α → Prop) (before current : List α) (item : α) : Prop :=
  ∃ skipped rest, current = skipped ++ item :: rest
    ∧ P (before ++ skipped) item
    ∧ ∀ earlier other later, skipped = earlier ++ other :: later → ¬ P (before ++ earlier) other

theorem not_isFirst_nil : ¬ IsFirst P before [] item := by
  rintro ⟨skipped, rest, hsplit, -⟩
  exact absurd hsplit.symm (by simp)

theorem isFirst_cons_of (hfirst : P before first) :
    IsFirst P before (first :: current) item ↔ first = item := by
  constructor
  · rintro ⟨skipped, rest, hsplit, -, hskipped⟩
    cases skipped with
    | nil => exact (List.cons.inj hsplit).1
    | cons other skipped =>
      -- what was skipped does not have the property, and the head does
      obtain ⟨rfl, -⟩ := List.cons.inj hsplit
      have hnot := hskipped [] first skipped rfl
      rw [List.append_nil] at hnot
      exact absurd hfirst hnot
  · rintro rfl
    refine ⟨[], current, rfl, ?_, ?_⟩
    · rw [List.append_nil]
      exact hfirst
    · intro earlier other later hsplit
      exact absurd hsplit.symm (by simp)

theorem isFirst_cons_of_not (hfirst : ¬ P before first) :
    IsFirst P before (first :: current) item ↔ IsFirst P (before ++ [first]) current item := by
  constructor
  · rintro ⟨skipped, rest, hsplit, hfound, hskipped⟩
    cases skipped with
    | nil =>
      obtain ⟨rfl, -⟩ := List.cons.inj hsplit
      rw [List.append_nil] at hfound
      exact absurd hfound hfirst
    | cons _ skipped =>
      obtain ⟨rfl, htail⟩ := List.cons.inj hsplit
      refine ⟨skipped, rest, htail, ?_, ?_⟩
      · rwa [List.append_assoc]
      · intro earlier other later hrest
        have hnot := hskipped (first :: earlier) other later (by rw [hrest]; rfl)
        rwa [List.append_assoc]
  · rintro ⟨skipped, rest, rfl, hfound, hskipped⟩
    refine ⟨first :: skipped, rest, rfl, ?_, ?_⟩
    · rwa [List.append_assoc] at hfound
    · intro earlier other later hsplit
      cases earlier with
      | nil =>
        obtain ⟨rfl, -⟩ := List.cons.inj hsplit
        rwa [List.append_nil]
      | cons _ earlier =>
        obtain ⟨rfl, htail⟩ := List.cons.inj hsplit
        have hnot := hskipped earlier other later htail
        rwa [List.append_assoc] at hnot

end IsFirst

/-- **The loop returns the first notification that exceeds the baseline.** -/
theorem firstNewFrom_eq_some_iff (baseline before current : List NotificationInfo)
    (notification : NotificationInfo) :
    firstNewFrom (notificationCounts baseline) (notificationCounts before) current
        = some notification
      ↔ IsFirst (Exceeds baseline) before current notification := by
  induction current generalizing before with
  | nil =>
    rw [iff_false_right not_isFirst_nil, firstNewFrom]
    exact Option.some_ne_none notification ∘ Eq.symm
  | cons first current ih =>
    have hseen : (notificationCounts before).increment first.fingerprint
        = notificationCounts (before ++ [first]) := by
      unfold notificationCounts
      rw [List.foldl_concat]
    have hexceeds : (notificationCounts baseline).count first.fingerprint
          < (notificationCounts (before ++ [first])).count first.fingerprint
        ↔ Exceeds baseline before first := by
      rw [count_notificationCounts, count_notificationCounts]
      rfl
    rw [firstNewFrom]
    simp only [hseen]
    by_cases hnew : Exceeds baseline before first
    · rw [if_pos (hexceeds.mpr hnew), isFirst_cons_of hnew, Option.some.injEq]
    · rw [if_neg (fun h => hnew (hexceeds.mp h)), ih (before ++ [first]),
        isFirst_cons_of_not hnew]

theorem Exceeds.lt_count {baseline before after : List NotificationInfo}
    {notification : NotificationInfo} (hexceeds : Exceeds baseline before notification) :
    (fingerprints baseline).count notification.fingerprint
      < (fingerprints (before ++ notification :: after)).count notification.fingerprint := by
  have hsplit : fingerprints (before ++ notification :: after)
      = fingerprints (before ++ [notification]) ++ fingerprints after := by
    unfold fingerprints
    rw [← List.map_append, List.append_assoc]
    rfl
  rw [hsplit, List.count_append]
  exact Nat.lt_of_lt_of_le hexceeds (Nat.le_add_right _ _)

/-- **Where the list has more of a fingerprint than the baseline**, there is a first notification
that exceeds it. -/
theorem exists_first_exceeds {baseline current : List NotificationInfo}
    (hmore : ∃ fingerprint, (fingerprints baseline).count fingerprint
      < (fingerprints current).count fingerprint) :
    ∃ skipped notification rest, current = skipped ++ notification :: rest
      ∧ Exceeds baseline skipped notification
      ∧ ∀ earlier other later, skipped = earlier ++ other :: later →
        ¬ Exceeds baseline earlier other := by
  induction current using List.reverseRecOn with
  | nil =>
    obtain ⟨fingerprint, hmore⟩ := hmore
    exact absurd hmore (Nat.not_lt_zero _)
  | append_singleton current last ih =>
    by_cases hearlier : ∃ fingerprint, (fingerprints baseline).count fingerprint
        < (fingerprints current).count fingerprint
    · obtain ⟨skipped, notification, rest, rfl, hfound, hskipped⟩ := ih hearlier
      exact ⟨skipped, notification, rest ++ [last], by simp, hfound, hskipped⟩
    · -- the last one makes the difference, so it is the first
      obtain ⟨fingerprint, hmore⟩ := hmore
      have hlast : last.fingerprint = fingerprint := by
        by_contra hother
        refine hearlier ⟨fingerprint, ?_⟩
        unfold fingerprints at hmore ⊢
        rw [List.map_append, List.count_append, List.map_singleton, List.count_singleton,
          if_neg (by simpa using hother)] at hmore
        exact hmore
      refine ⟨current, last, [], rfl, ?_, ?_⟩
      · unfold Exceeds
        rw [hlast]
        exact hmore
      · rintro earlier other later rfl hexceeds
        exact hearlier ⟨_, hexceeds.lt_count⟩

/-- **Nothing is new** just when what the list shows is, with its multiplicity, among what the
baseline shows. -/
theorem firstNewNotification_eq_none_iff (baseline current : List NotificationInfo) :
    firstNewNotification current (notificationCounts baseline) = none
      ↔ (fingerprints current : Multiset NotificationFingerprint) ≤ fingerprints baseline := by
  rw [Multiset.le_iff_count]
  simp only [Multiset.coe_count]
  constructor
  · intro hnone fingerprint
    by_contra hmore
    obtain ⟨skipped, notification, rest, hfirst⟩ :=
      exists_first_exceeds ⟨fingerprint, Nat.not_le.mp hmore⟩
    have hsome := (firstNewFrom_eq_some_iff baseline [] current notification).mpr
      ⟨skipped, rest, hfirst⟩
    exact absurd (hnone.symm.trans hsome) (by simp)
  · intro hle
    cases hfirst : firstNewNotification current (notificationCounts baseline) with
    | none => rfl
    | some notification =>
      obtain ⟨skipped, rest, rfl, hexceeds, -⟩ :=
        (firstNewFrom_eq_some_iff baseline [] current notification).mp hfirst
      exact absurd (hle notification.fingerprint) (Nat.not_le.mpr hexceeds.lt_count)

/-- **New notifications are the difference of multisets.** A notification is returned just when what
the list shows is not, with its multiplicity, among what the baseline shows; and it is the first of
the list that, with those before it, occurs more often than in the baseline. -/
theorem firstNewNotification_correct (baseline current : List NotificationInfo) :
    ((firstNewNotification current (notificationCounts baseline)).isSome
      ↔ ¬ (fingerprints current : Multiset NotificationFingerprint) ≤ fingerprints baseline)
    ∧ ∀ notification, firstNewNotification current (notificationCounts baseline)
        = some notification
      ↔ ∃ skipped rest, current = skipped ++ notification :: rest
        ∧ Exceeds baseline skipped notification
        ∧ ∀ earlier other later, skipped = earlier ++ other :: later →
          ¬ Exceeds baseline earlier other := by
  refine ⟨?_, fun notification => firstNewFrom_eq_some_iff baseline [] current notification⟩
  rw [← firstNewNotification_eq_none_iff, ← Option.isNone_iff_eq_none, Bool.not_eq_true,
    Option.isNone_eq_false_iff]

end AgentDesktop
