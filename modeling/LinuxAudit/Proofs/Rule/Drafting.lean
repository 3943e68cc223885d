import Mathlib
import LinuxAudit.Abi.Machine
import LinuxAudit.Proofs.Netlink.Framing
import LinuxAudit.Proofs.Rule.Edits
import LinuxAudit.Proofs.Rule.WireFormat

/-! What holds of every rule that was drafted, since every step that succeeds keeps it: the rule is
within the limits of the wire format, `drafted_on_wire`. -/

namespace LinuxAudit

/-- The limits that a rule is drafted within. -/
structure Rule.WithinLimits (rule : Rule) : Prop where
  fields : rule.predicates.length ≤ maxFields
  texts : Predicate.textLength rule.predicates = rule.trailer.length
  trailer : rule.trailer.length ≤ maxTrailerLength

theorem Rule.WithinLimits.wellFormed {rule : Rule} (h : rule.WithinLimits) : rule.WellFormed where
  fields := h.fields
  texts := h.texts
  trailer := h.trailer.trans_lt (by decide)

theorem Predicate.textLength_append (ps qs : List Predicate) :
    textLength (ps ++ qs) = textLength ps + textLength qs := by
  induction ps with
  | nil => rw [List.nil_append, textLength, Nat.zero_add]
  | cons p ps ih => rw [List.cons_append, textLength, textLength, ih, Nat.add_assoc]

theorem Predicate.textLength_eq_zero {ps : List Predicate}
    (h : ∀ p ∈ ps, p.field.isString = false) : textLength ps = 0 := by
  induction ps with
  | nil => rfl
  | cons p ps ih =>
      rw [textLength, ih fun q hq => h q (List.mem_cons_of_mem p hq), h p List.mem_cons_self]
      rfl

theorem Entry.Fits.textLength {e : Entry} (h : e.Fits) :
    Predicate.textLength [e.predicate] = e.stored.length := by
  have hvalue := h.toNat_value
  cases h with
  | number hfield =>
      rw [Predicate.textLength, predicate, hfield]
      rfl
  | text hfield hlength =>
      rw [Predicate.textLength, predicate, hfield]
      exact hvalue

namespace Draft

theorem brought_subset (abi : Abi) (rule : Rule) : brought abi rule ⊆ abi.maskPredicates := by
  rw [brought]
  by_cases h : rule.syscalls = .none
  · rw [if_pos h]
    exact List.filter_subset_self _
  · rw [if_neg h]
    exact List.nil_subset _

variable {abi : Abi} (hmask : ∀ p ∈ abi.maskPredicates, p.field.isString = false)

include hmask in
theorem Effect.withinLimits {step : Step} {rule rule' : Rule}
    (heffect : Effect abi rule step rule') (h : rule.WithinLimits) : rule'.WithinLimits := by
  cases heffect with
  | setList list => exact ⟨h.fields, h.texts, h.trailer⟩
  | setAction action => exact ⟨h.fields, h.texts, h.trailer⟩
  | select selection syscalls hnumbers hroom =>
      refine ⟨?_, ?_, h.trailer⟩
      · rw [List.length_append]
        by_cases hnil : brought abi rule = []
        · rw [hnil]
          exact h.fields
        · exact hroom hnil
      · rw [Predicate.textLength_append, h.texts,
          Predicate.textLength_eq_zero fun p hp => hmask p (brought_subset abi rule hp)]
        rfl
  | entry e hentry hfits hroom htrailer =>
      refine ⟨?_, ?_, ?_⟩
      · rw [Rule.withEntry, List.length_append]
        exact Nat.lt_of_le_of_ne h.fields hroom
      · rw [Rule.withEntry, Predicate.textLength_append, h.texts, hfits.textLength,
          List.length_append]
      · have hused := h.trailer
        rw [Rule.withEntry, List.length_append]
        omega

include hmask in
/-- Whatever is drafted stays within the limits. -/
theorem attemptAll_withinLimits (draft : Draft) (h : draft.rule.WithinLimits)
    (steps : List Step) : (attemptAll abi draft steps).rule.WithinLimits := by
  induction steps generalizing draft with
  | nil => exact h
  | cons step steps ih =>
      have hstep : (draft.attempt (step.edit abi)).2.rule.WithinLimits := by
        rcases attempt_cases abi draft step with ⟨e, heq⟩ | ⟨draft', heq, heffect⟩
        · rwa [heq]
        · rw [heq]
          exact heffect.withinLimits hmask h
      exact ih _ hstep

/-- An absolute path keeps a byte. -/
theorem normalPath_length_pos {path : Bytes} (h : path ≠ []) : 1 ≤ (normalPath path).length := by
  rw [normalPath]
  split
  · match path, h with
    | b :: rest, _ => exact Nat.le_refl 1
  · rename_i stripped hne
    exact List.length_pos_iff.2 hne

/-! ### Drafted rules on the wire -/

/-- The rule that steps draft, the first of them from nothing. -/
def drafted (abi : Abi) (steps : List Step) : Rule :=
  (attemptAll abi {} steps).rule

include hmask in
theorem drafted_withinLimits (steps : List Step) : (drafted abi steps).WithinLimits := by
  refine attemptAll_withinLimits hmask {} ⟨?_, rfl, ?_⟩ steps
  · exact Nat.zero_le _
  · exact Nat.zero_le _

theorem declared_encode_le {rule : Rule} (h : rule.WithinLimits) :
    Datagram.declared rule.encode ≤ maxMessageLength := by
  have htrailer := h.trailer
  have hfits : messageHeaderSize + ruleHeaderSize + maxTrailerLength = maxMessageLength := by
    decide
  rw [Datagram.declared, Rule.length_encode h.fields]
  omega

include hmask in
/-- A rule that was drafted, whatever the edits were and whether they failed, is within the limits;
so nothing that drafting and writing it subtracts is more than what it is subtracted from, and it
survives both levels of the wire format. -/
theorem drafted_on_wire (steps : List Step) :
    (drafted abi steps).WithinLimits ∧
    (maxFields - (drafted abi steps).predicates.length + (drafted abi steps).predicates.length =
        maxFields ∧
      maxTrailerLength - (drafted abi steps).trailer.length + (drafted abi steps).trailer.length =
        maxTrailerLength ∧
      ∀ path, path ≠ [] → 1 ≤ (normalPath path).length) ∧
    ∀ (type : MessageType) (flags : UInt16) (sequence : UInt32),
      type.code.toNat < 1100 → type ≠ .error →
      ∃ message,
        Datagram.decode (Datagram.encode type flags sequence (drafted abi steps).encode) =
          .ok [message] ∧
        message.header.type = type ∧ message.header.flags = flags ∧
        message.header.sequence = sequence ∧
        Rule.decode message.payload = .ok (drafted abi steps) := by
  have hlimits := drafted_withinLimits hmask steps
  refine ⟨hlimits, ⟨?_, ?_, fun path hpath => normalPath_length_pos hpath⟩, ?_⟩
  · exact Nat.sub_add_cancel hlimits.fields
  · exact Nat.sub_add_cancel hlimits.trailer
  · intro type flags sequence hrecord herror
    have htype : ¬type.isRecord := by
      rw [MessageType.isRecord, decide_eq_true_iff]
      exact Nat.not_le.2 hrecord
    refine ⟨_, Datagram.decode_encode (declared_encode_le hlimits) htype herror, rfl, rfl, rfl, ?_⟩
    have hread := Rule.decode_encode_append hlimits.wellFormed []
    rwa [List.append_nil] at hread

/-- A directory watched under a syscall. The second step fails, since a key is no number. -/
def watchSteps : List Step :=
  [.select (.number 83), .addNumber .key .equal 1, .watchTree [0x2F, 0x65, 0x74, 0x63, 0x2F],
    .setList .exit]

theorem machine_maskPredicates (machine : Machine) :
    ∀ p ∈ machine.abi.maskPredicates, p.field.isString = false := by
  cases machine with
  | x8664 => decide
  | i386 => decide
  | aarch64 => decide

theorem drafted_on_wire_watchSteps :
    (drafted Machine.x8664.abi watchSteps).predicates =
      [⟨.arch, .equal, Arch.x8664⟩, ⟨.tree, .equal, 4⟩] ∧
    (drafted Machine.x8664.abi watchSteps).trailer = [0x2F, 0x65, 0x74, 0x63] ∧
    ∃ message,
      Datagram.decode
        (Datagram.encode .addRule 5 1 (drafted Machine.x8664.abi watchSteps).encode) =
          .ok [message] ∧
      Rule.decode message.payload = .ok (drafted Machine.x8664.abi watchSteps) := by
  obtain ⟨-, -, hwire⟩ := drafted_on_wire (machine_maskPredicates .x8664) watchSteps
  obtain ⟨message, hdecode, -, -, -, hread⟩ := hwire .addRule 5 1 (by decide) (by decide)
  exact ⟨by decide +kernel, by decide +kernel, message, hdecode, hread⟩

end Draft

end LinuxAudit
