import Mathlib.Data.Set.Basic

/-!
# Exclusive ownership

Owners hold resources, and a claimed flag guards each resource.  Ownership is
exclusive when a held resource is claimed and has one owner; it is covered when
every claimed resource has an owner.  `Transfer` lists the ways in which
resources change hands in one step.  Each of them keeps ownership exclusive,
and each but `forget` keeps it covered.  Owners often come in families, one
per party; a step of one party is a transfer of the whole family.
-/

universe u v w

variable {Owner : Type u} {Resource : Type v}

structure Exclusive (holds : Owner → Resource → Prop) (claimed : Resource → Prop) : Prop where
  claimed_of_holds : ∀ owner resource, holds owner resource → claimed resource
  owner_unique : ∀ owner other resource, holds owner resource → holds other resource → owner = other

def Covered (holds : Owner → Resource → Prop) (claimed : Resource → Prop) : Prop :=
  ∀ resource, claimed resource → ∃ owner, holds owner resource

/-- How holdings and claims change in one step; `leaks` says when a claim may
outlive its owner. -/
inductive Transfer (leaks : Prop) (holds later : Owner → Resource → Prop)
    (claimed laterClaimed : Resource → Prop) : Prop
  | keep (holdings : ∀ owner resource,
        later owner resource ↔ holds owner resource)
      (claims : ∀ resource, laterClaimed resource ↔ claimed resource)
  | claim (newOwner : Owner) (taken : Resource) (unclaimed : ¬ claimed taken)
      (holdings : ∀ owner resource, later owner resource ↔
        holds owner resource ∨ owner = newOwner ∧ resource = taken)
      (claims : ∀ resource, laterClaimed resource ↔ resource = taken ∨ claimed resource)
  | handOver (giver taker : Owner)
      (holdings : ∀ owner resource, later owner resource ↔
        owner ≠ giver ∧ holds owner resource ∨ owner = taker ∧ holds giver resource)
      (claims : ∀ resource, laterClaimed resource ↔ claimed resource)
  | release (givers : Owner → Prop)
      (holdings : ∀ owner resource, later owner resource ↔ ¬ givers owner ∧ holds owner resource)
      (claims : ∀ resource, laterClaimed resource ↔
        (¬ ∃ giver, givers giver ∧ holds giver resource) ∧ claimed resource)
  /-- Holdings are lost, and claims are not given back. -/
  | forget (leaked : leaks)
      (fewer : ∀ owner resource, later owner resource → holds owner resource)
      (more : ∀ resource, claimed resource → laterClaimed resource)

namespace Transfer

variable {leaks : Prop} {holds later : Owner → Resource → Prop}
variable {claimed laterClaimed : Resource → Prop}

theorem mono {leaksToo : Prop} (implied : leaks → leaksToo)
    (transfer : Transfer leaks holds later claimed laterClaimed) :
    Transfer leaksToo holds later claimed laterClaimed := by
  cases transfer with
  | keep holdings claims => exact .keep holdings claims
  | claim owner taken unclaimed holdings claims =>
    exact .claim owner taken unclaimed holdings claims
  | handOver giver taker holdings claims => exact .handOver giver taker holdings claims
  | release givers holdings claims => exact .release givers holdings claims
  | forget leaked fewer more => exact .forget (implied leaked) fewer more

theorem exclusive (transfer : Transfer leaks holds later claimed laterClaimed)
    (before : Exclusive holds claimed) : Exclusive later laterClaimed := by
  cases transfer with
  | keep holdings claims =>
    constructor
    · intro owner resource held
      rw [claims]
      exact before.claimed_of_holds owner resource ((holdings owner resource).1 held)
    · intro owner other resource held alsoHeld
      exact before.owner_unique owner other resource ((holdings owner resource).1 held)
        ((holdings other resource).1 alsoHeld)
  | claim newOwner taken unclaimed holdings claims =>
    have free : ∀ owner, ¬ holds owner taken := by
      intro owner held
      exact unclaimed (before.claimed_of_holds owner taken held)
    constructor
    · intro owner resource held
      rw [claims]
      rcases (holdings owner resource).1 held with held | ⟨_, same⟩
      · exact Or.inr (before.claimed_of_holds owner resource held)
      · exact Or.inl same
    · intro owner other resource held alsoHeld
      rcases (holdings owner resource).1 held with held | ⟨isNew, rfl⟩
      · rcases (holdings other resource).1 alsoHeld with also | ⟨_, rfl⟩
        · exact before.owner_unique owner other resource held also
        · exact absurd held (free owner)
      · rcases (holdings other resource).1 alsoHeld with also | ⟨alsoNew, _⟩
        · exact absurd also (free other)
        · exact isNew.trans alsoNew.symm
  | handOver giver taker holdings claims =>
    constructor
    · intro owner resource held
      rw [claims]
      rcases (holdings owner resource).1 held with ⟨_, held⟩ | ⟨_, given⟩
      · exact before.claimed_of_holds owner resource held
      · exact before.claimed_of_holds giver resource given
    · intro owner other resource held alsoHeld
      rcases (holdings owner resource).1 held with
        ⟨notGiver, held⟩ | ⟨isTaker, given⟩
      · rcases (holdings other resource).1 alsoHeld with
          ⟨_, also⟩ | ⟨_, given⟩
        · exact before.owner_unique owner other resource held also
        · exact absurd (before.owner_unique owner giver resource held given) notGiver
      · rcases (holdings other resource).1 alsoHeld with
          ⟨notGiver, also⟩ | ⟨alsoTaker, _⟩
        · exact absurd (before.owner_unique other giver resource also given) notGiver
        · exact isTaker.trans alsoTaker.symm
  | release givers holdings claims =>
    constructor
    · intro owner resource held
      obtain ⟨keeps, held⟩ := (holdings owner resource).1 held
      rw [claims]
      refine ⟨?_, before.claimed_of_holds owner resource held⟩
      rintro ⟨giver, gives, given⟩
      have same := before.owner_unique owner giver resource held given
      exact keeps (same ▸ gives)
    · intro owner other resource held alsoHeld
      exact before.owner_unique owner other resource ((holdings owner resource).1 held).2
        ((holdings other resource).1 alsoHeld).2
  | forget _ fewer more =>
    constructor
    · intro owner resource held
      exact more resource (before.claimed_of_holds owner resource (fewer owner resource held))
    · intro owner other resource held alsoHeld
      exact before.owner_unique owner other resource
        (fewer owner resource held) (fewer other resource alsoHeld)

/-- A step that cannot leak keeps every claim owned. -/
theorem covered (transfer : Transfer leaks holds later claimed laterClaimed)
    (noLeak : ¬ leaks) (before : Covered holds claimed) :
    Covered later laterClaimed := by
  intro resource isClaimed
  cases transfer with
  | keep holdings claims =>
    obtain ⟨owner, held⟩ := before resource ((claims resource).1 isClaimed)
    exact ⟨owner, (holdings owner resource).2 held⟩
  | claim newOwner taken _ holdings claims =>
    rcases (claims resource).1 isClaimed with same | wasClaimed
    · exact ⟨newOwner, (holdings newOwner resource).2 (Or.inr ⟨rfl, same⟩)⟩
    · obtain ⟨owner, held⟩ := before resource wasClaimed
      exact ⟨owner, (holdings owner resource).2 (Or.inl held)⟩
  | handOver giver taker holdings claims =>
    obtain ⟨owner, held⟩ := before resource ((claims resource).1 isClaimed)
    by_cases gives : owner = giver
    · subst gives
      exact ⟨taker, (holdings taker resource).2 (Or.inr ⟨rfl, held⟩)⟩
    · exact ⟨owner, (holdings owner resource).2 (Or.inl ⟨gives, held⟩)⟩
  | release givers holdings claims =>
    obtain ⟨notGiven, wasClaimed⟩ := (claims resource).1 isClaimed
    obtain ⟨owner, held⟩ := before resource wasClaimed
    refine ⟨owner, (holdings owner resource).2 ⟨?_, held⟩⟩
    intro gives
    exact notGiven ⟨owner, gives, held⟩
  | forget leaked _ _ => exact absurd leaked noLeak

/-- A resource whose claim ends had an owner who gave it back. -/
theorem released_by_owner (transfer : Transfer leaks holds later claimed laterClaimed)
    {resource : Resource} (before : claimed resource)
    (after : ¬ laterClaimed resource) :
    ∃ owner, holds owner resource ∧ ¬ later owner resource := by
  cases transfer with
  | keep _ claims | handOver _ _ _ claims =>
    exact absurd ((claims resource).2 before) after
  | claim _ _ _ _ claims => exact absurd ((claims resource).2 (Or.inr before)) after
  | release givers holdings claims =>
    have given : ∃ giver, givers giver ∧ holds giver resource := by
      by_contra notGiven
      exact after ((claims resource).2 ⟨notGiven, before⟩)
    obtain ⟨giver, gives, held⟩ := given
    refine ⟨giver, held, ?_⟩
    intro stillHeld
    exact ((holdings giver resource).1 stillHeld).1 gives
  | forget _ _ more => exact absurd (more resource before) after

end Transfer

section Family

variable {Party : Type w} {leaks : Prop}
variable {holds later : Party → Owner → Resource → Prop}
variable {claimed laterClaimed : Resource → Prop}

/-- A transfer among the owners of one party is a transfer of the family. -/
theorem Transfer.ofParty (party : Party)
    (others : ∀ other, other ≠ party → later other = holds other)
    (transfer : Transfer leaks (holds party) (later party) claimed laterClaimed) :
    Transfer leaks (fun owner : Party × Owner => holds owner.1 owner.2)
      (fun owner : Party × Owner => later owner.1 owner.2)
      claimed laterClaimed := by
  cases transfer with
  | keep holdings claims =>
    refine .keep ?_ claims
    rintro ⟨other, owner⟩ resource
    by_cases same : other = party
    · subst same
      exact holdings owner resource
    · rw [others other same]
  | claim newOwner taken unclaimed holdings claims =>
    refine .claim (party, newOwner) taken unclaimed ?_ claims
    rintro ⟨other, owner⟩ resource
    by_cases same : other = party
    · subst same
      simpa using holdings owner resource
    · simp [others other same, same]
  | handOver giver taker holdings claims =>
    refine .handOver (party, giver) (party, taker) ?_ claims
    rintro ⟨other, owner⟩ resource
    by_cases same : other = party
    · subst same
      simpa using holdings owner resource
    · simp [others other same, same]
  | release givers holdings claims =>
    refine .release (fun owner => owner.1 = party ∧ givers owner.2) ?_ ?_
    · rintro ⟨other, owner⟩ resource
      by_cases same : other = party
      · subst same
        simpa using holdings owner resource
      · simp [others other same, same]
    · intro resource
      have sameGivers : (∃ giver : Party × Owner, (giver.1 = party ∧ givers giver.2) ∧
            holds giver.1 giver.2 resource) ↔
          ∃ giver, givers giver ∧ holds party giver resource := by
        constructor
        · rintro ⟨⟨other, giver⟩, ⟨rfl, gives⟩, held⟩
          exact ⟨giver, gives, held⟩
        · rintro ⟨giver, gives, held⟩
          exact ⟨(party, giver), ⟨rfl, gives⟩, held⟩
      rw [claims resource, sameGivers]
  | forget leaked fewer more =>
    refine .forget leaked ?_ more
    rintro ⟨other, owner⟩ resource held
    by_cases same : other = party
    · subst same
      exact fewer owner resource held
    · rw [others other same] at held
      exact held

end Family
