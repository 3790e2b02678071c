import Batchit.Wire.Instruction

/-! How the program finds the call in an instruction's bytes and accounts. -/

namespace Batchit

open Bytes (Reader Reads Takes)

/-- The program's methods in the order it tries them, each with the reader of its arguments. -/
def methods (addressing : Addressing) : List (String × Reader Method) := [
  ("create_pool", Method.createPool <$> CreatePoolArgs.read),
  ("contribute", Method.contribute <$> Borsh.readU64),
  ("begin_launch", Method.beginLaunch <$> Borsh.readPubkey addressing),
  ("complete_buy", Method.completeBuy <$> Borsh.readU64),
  ("finalize", pure .finalize),
  ("claim", pure .claim),
  ("refund", pure .refund),
  ("mark_refundable", pure .markRefundable),
  ("close_pool", pure .closePool)]

namespace AccountMeta

/-- Whether an account serves where another one is asked for. -/
def serves (given asked : AccountMeta) : Bool :=
  given.pubkey = asked.pubkey && (given.isSigner || !asked.isSigner)
    && (given.isWritable || !asked.isWritable)

/-- Whether the first of the accounts given serve for those asked for, in order. -/
def covers : (given asked : List AccountMeta) → Bool
  | _, [] => true
  | [], _ :: _ => false
  | given :: rest, asked :: more => given.serves asked && covers rest more

end AccountMeta

/-- The tag of the framework's instruction for events. -/
def EVENT_IX_TAG_LE : List UInt8 := [0xe4, 0x45, 0xa5, 0x2e, 0x51, 0xcb, 0x9a, 0x1d]

/-- What the runtime and the framework put between a transaction and the program's methods. -/
structure Platform where
  /-- The keys that no transaction may write, besides the System Program's. -/
  otherReserved : Pubkey → Bool
  /-- The tags that the framework keeps for its own instructions, besides that for events. -/
  otherTags : List (List UInt8)

namespace Platform

/-- Whether no transaction may write the account under a key. -/
def reserves (platform : Platform) (key : Pubkey) : Bool :=
  key = SYSTEM_PROGRAM_ID || platform.otherReserved key

/-- The tags that the framework keeps for its own instructions. -/
def tags (platform : Platform) : List (List UInt8) := EVENT_IX_TAG_LE :: platform.otherTags

/-- An account as the runtime hands it on: under a reserved key it is only read. -/
def demoted (platform : Platform) (key : AccountMeta) : AccountMeta :=
  { key with isWritable := key.isWritable && !platform.reserves key.pubkey }

/-- An instruction as the runtime hands it on. -/
def handed (platform : Platform) (carrier : TransactionInstruction) : TransactionInstruction :=
  { carrier with keys := carrier.keys.map platform.demoted }

/-- Whether a call asks to write no account that the runtime keeps from being written. -/
def admits (platform : Platform) (instruction : Instruction) : Bool :=
  instruction.metas.all fun asked => !(asked.isWritable && platform.reserves asked.pubkey)

end Platform

/-- Why a call does not reach its handler. -/
inductive DispatchError where
  | DeclaredProgramIdMismatch
  /-- The bytes begin with a tag of the framework's own, and no method runs. -/
  | FrameworkInstruction
  | InstructionFallbackNotFound
  | InstructionDidNotDeserialize
  /-- Too few accounts, or one without the address or the privileges asked of it. -/
  | AccountsRefused
  deriving DecidableEq, Repr

/--
The call that an instruction is read as, given as the runtime hands it on.

Bytes behind the arguments and accounts behind those of the method are left unread.
-/
def dispatch (platform : Platform) (addressing : Addressing) (carrier : TransactionInstruction) :
    Except DispatchError Instruction :=
  if carrier.programId ≠ BATCHIT_PROGRAM_ID then .error .DeclaredProgramIdMismatch
  else match (methods addressing).find? fun entry => (disc entry.1).isPrefixOf carrier.data with
    | none =>
      -- The framework's own tags are tried behind all methods.
      if platform.tags.any fun tag => tag.isPrefixOf carrier.data then .error .FrameworkInstruction
      else .error .InstructionFallbackNotFound
    | some entry => match entry.2.from carrier.data 8 with
      | none => .error .InstructionDidNotDeserialize
      | some (method, _) => match method.withAccounts (carrier.keys.map AccountMeta.pubkey) with
        | none => .error .AccountsRefused
        | some instruction =>
          if AccountMeta.covers carrier.keys instruction.metas then .ok instruction
          else .error .AccountsRefused

/-- An instruction as a client sends it, with the method's own accounts and no byte more. -/
def Instruction.carrier (addressing : Addressing) (instruction : Instruction) :
    Option TransactionInstruction :=
  instruction.method.map fun method =>
    { programId := BATCHIT_PROGRAM_ID, keys := instruction.metas, data := method.data addressing }

/-! ### What each method reads -/

section Methods

variable {addressing : Addressing}

/-- No two methods have the same discriminator. -/
theorem discs_nodup : ((methods addressing).map fun entry => disc entry.1).Nodup := by
  -- The nine digests are computed once, and compared as bytes.
  have names : ["create_pool", "contribute", "begin_launch", "complete_buy", "finalize", "claim",
      "refund", "mark_refundable", "close_pool"].map disc
    = [[233, 146, 209, 142, 207, 104, 64, 188], [82, 33, 68, 131, 32, 0, 205, 95],
      [29, 194, 165, 217, 51, 208, 28, 101], [230, 182, 88, 32, 170, 100, 116, 219],
      [171, 61, 218, 56, 127, 115, 12, 217], [62, 198, 214, 193, 213, 159, 108, 210],
      [2, 96, 183, 251, 63, 208, 46, 46], [185, 115, 187, 59, 193, 8, 197, 87],
      [140, 189, 209, 23, 239, 62, 239, 11]] := by decide +kernel
  change (["create_pool", "contribute", "begin_launch", "complete_buy", "finalize", "claim",
    "refund", "mark_refundable", "close_pool"].map disc).Nodup
  rw [names]
  decide

/-- A discriminator takes eight bytes. -/
@[simp] theorem length_disc (name : String) : (disc name).length = 8 := by
  simp [disc]

/-- Of the methods' discriminators, the bytes begin with at most one. -/
theorem method_unique {entry other : String × Reader Method} {data : List UInt8}
    (member : entry ∈ methods addressing) (otherMember : other ∈ methods addressing)
    (stands : disc entry.1 <+: data) (otherStands : disc other.1 <+: data) : entry = other := by
  -- Two prefixes of one length are the same prefix.
  have same : disc entry.1 = disc other.1 :=
    (List.prefix_of_prefix_length_le stands otherStands (by simp)).eq_of_length (by simp)
  exact List.inj_on_of_nodup_map discs_nodup member otherMember same

/-- A method is read where its arguments stand. -/
theorem method_reads {entry : String × Reader Method} (member : entry ∈ methods addressing) :
    Reads entry.2 (fun method => method.name = entry.1 ∧ method.Known addressing)
      (Method.args addressing) := by
  simp only [methods, List.mem_cons, List.not_mem_nil, or_false] at member
  -- Four methods take arguments, and each reader knows its own.
  rcases member with rfl | rfl | rfl | rfl | rfl | rfl | rfl | rfl | rfl
  · refine CreatePoolArgs.read_reads.map (fun method => ?_) fun _ _ => rfl
    cases method <;> simp [Method.name, Method.Known]
  · refine Borsh.readU64_reads.map (fun method => ?_) fun _ _ => rfl
    cases method <;> simp [Method.name, Method.Known]
  · refine (Borsh.readPubkey_reads addressing).map (fun method => ?_) fun _ _ => rfl
    cases method <;> simp [Method.name, Method.Known]
  · refine Borsh.readU64_reads.map (fun method => ?_) fun _ _ => rfl
    cases method <;> simp [Method.name, Method.Known]
  all_goals
    refine (Reads.pure _).congr (fun method => ?_) fun method only => by rw [only]; rfl
    cases method <;> simp [Method.name, Method.Known]

/-- A method takes as many bytes as its arguments, whatever they are. -/
theorem method_takes {entry : String × Reader Method} {method : Method}
    (member : entry ∈ methods addressing) (named : method.name = entry.1) :
    Takes entry.2 method.width := by
  simp only [methods, List.mem_cons, List.not_mem_nil, or_false] at member
  -- Four methods take arguments, and each reader takes its own width.
  rcases member with rfl | rfl | rfl | rfl | rfl | rfl | rfl | rfl | rfl <;>
    cases method <;> simp only [Method.name, String.reduceEq] at named
  · exact CreatePoolArgs.read_takes.map _
  · exact Borsh.readU64_takes.map _
  · exact (Borsh.readPubkey_takes addressing).map _
  · exact Borsh.readU64_takes.map _
  all_goals exact .pure _

/-- Every method is one of those tried. -/
theorem entry_of_method (addressing : Addressing) (method : Method) :
    ∃ entry ∈ methods addressing, method.name = entry.1 := by
  cases method <;> simp [methods, Method.name]

/-- Each name tried is that of a method. -/
theorem method_of_entry {entry : String × Reader Method} (member : entry ∈ methods addressing) :
    ∃ method : Method, method.name = entry.1 := by
  simp only [methods, List.mem_cons, List.not_mem_nil, or_false] at member
  -- The methods are tried in the order in which they are given here.
  rcases member with rfl | rfl | rfl | rfl | rfl | rfl | rfl | rfl | rfl
  · exact ⟨.createPool ⟨0, 0, 0, 0, 0, 0⟩, rfl⟩
  · exact ⟨.contribute 0, rfl⟩
  · exact ⟨.beginLaunch .default, rfl⟩
  · exact ⟨.completeBuy 0, rfl⟩
  · exact ⟨.finalize, rfl⟩
  · exact ⟨.claim, rfl⟩
  · exact ⟨.refund, rfl⟩
  · exact ⟨.markRefundable, rfl⟩
  · exact ⟨.closePool, rfl⟩

/-- The method found is the one whose discriminator the bytes begin with. -/
theorem find_entry {entry : String × Reader Method} {data : List UInt8}
    (member : entry ∈ methods addressing) (stands : disc entry.1 <+: data) :
    (methods addressing).find? (fun entry => (disc entry.1).isPrefixOf data) = some entry := by
  -- The search ends at an entry that stands in front, and only one does.
  cases found : (methods addressing).find? fun entry => (disc entry.1).isPrefixOf data with
  | none =>
    have missed := List.find?_eq_none.mp found entry member
    exact absurd (List.isPrefixOf_iff_prefix.mpr stands) missed
  | some other =>
    have otherStands : (disc other.1).isPrefixOf data = true := by
      simpa using List.find?_some found
    rw [method_unique member (List.mem_of_find?_eq_some found) stands
      (List.isPrefixOf_iff_prefix.mp otherStands)]

end Methods

/-! ### What the accounts are taken for -/

/-- Accounts that serve have the addresses asked for, followed by any others. -/
theorem AccountMeta.pubkeys_of_covers {given asked : List AccountMeta}
    (covered : covers given asked = true) :
    ∃ rest, given.map pubkey = asked.map pubkey ++ rest := by
  -- The accounts are matched in order, and those behind them left over.
  induction asked generalizing given with
  | nil => exact ⟨given.map pubkey, rfl⟩
  | cons wanted asked ih =>
    cases given with
    | nil => cases covered
    | cons first given =>
      simp only [covers, serves, Bool.and_eq_true, decide_eq_true_eq] at covered
      obtain ⟨⟨⟨same, -⟩, -⟩, covered⟩ := covered
      obtain ⟨rest, behind⟩ := ih covered
      exact ⟨rest, by rw [List.map_cons, List.map_cons, List.cons_append, same, behind]⟩

/-- The accounts asked for serve for themselves. -/
theorem AccountMeta.covers_self (asked : List AccountMeta) : covers asked asked = true := by
  induction asked with
  | nil => rfl
  | cons wanted asked ih => simp [covers, serves, ih]

/-- An account asked for is served by one that is given, with at least its privileges. -/
theorem AccountMeta.served_of_covers {given asked : List AccountMeta}
    (covered : covers given asked = true) {wanted : AccountMeta} (member : wanted ∈ asked) :
    ∃ key ∈ given, key.serves wanted = true := by
  -- The accounts are matched in order, so the one asked for is met in turn.
  induction asked generalizing given with
  | nil => cases member
  | cons first asked ih =>
    cases given with
    | nil => cases covered
    | cons key given =>
      simp only [covers, Bool.and_eq_true] at covered
      rcases List.mem_cons.mp member with rfl | later
      · exact ⟨key, List.mem_cons_self, covered.1⟩
      · obtain ⟨other, among, serves⟩ := ih covered.2 later
        exact ⟨other, List.mem_cons_of_mem _ among, serves⟩

/-- An account serves for another with its address, and with whatever privileges are asked. -/
theorem AccountMeta.serves_iff {given asked : AccountMeta} : given.serves asked = true ↔
    given.pubkey = asked.pubkey ∧ (asked.isSigner = true → given.isSigner = true) ∧
      (asked.isWritable = true → given.isWritable = true) := by
  unfold serves
  cases given.isSigner <;> cases asked.isSigner <;> cases given.isWritable <;>
    cases asked.isWritable <;> simp

/-- The accounts asked for, as the runtime hands them on, serve if none to be written is reserved. -/
theorem AccountMeta.covers_demoted (platform : Platform) (asked : List AccountMeta) :
    covers (asked.map platform.demoted) asked
      = asked.all fun asked => !(asked.isWritable && platform.reserves asked.pubkey) := by
  induction asked with
  | nil => rfl
  | cons wanted asked ih =>
    -- Only the privilege to write is ever taken from an account.
    rw [List.map_cons, covers, ih, List.all_cons]
    cases reserved : platform.reserves wanted.pubkey <;> cases writable : wanted.isWritable <;>
      simp [serves, Platform.demoted, reserved, writable]

/-- An account that is handed on was given, with at least the privileges it is handed on with. -/
theorem Platform.given_of_handed {platform : Platform} {carrier : TransactionInstruction}
    {key : AccountMeta} (member : key ∈ (platform.handed carrier).keys) :
    ∃ given ∈ carrier.keys, given.serves key = true := by
  obtain ⟨given, among, rfl⟩ := List.mem_map.mp member
  -- Demotion takes a privilege, and gives none.
  refine ⟨given, among, AccountMeta.serves_iff.mpr ⟨rfl, fun signs => signs, fun writable => ?_⟩⟩
  simp only [demoted, Bool.and_eq_true] at writable
  exact writable.1

/-- A method takes the accounts it asks for, and leaves those behind them. -/
theorem Method.withAccounts_metas {instruction : Instruction} {method : Method} (rest : List Pubkey)
    (asked : instruction.method = some method) :
    method.withAccounts (instruction.metas.map AccountMeta.pubkey ++ rest) = some instruction := by
  cases instruction <;> cases asked <;> rfl

/-- The call made up of a method and accounts is a call of that method. -/
theorem Method.method_of_withAccounts {instruction : Instruction} {method : Method}
    {keys : List Pubkey} (taken : method.withAccounts keys = some instruction) :
    instruction.method = some method := by
  unfold withAccounts at taken
  split at taken <;> cases taken <;> rfl

/-! ### What an instruction is read as -/

/-- An instruction carries a call: to the program, its bytes in front, and its accounts first. -/
structure Carries (addressing : Addressing) (carrier : TransactionInstruction) (method : Method)
    (instruction : Instruction) : Prop where
  program : carrier.programId = BATCHIT_PROGRAM_ID
  asks : instruction.method = some method
  known : method.Known addressing
  data : method.data addressing <+: carrier.data
  keys : AccountMeta.covers carrier.keys instruction.metas = true

/-- What an instruction is like that is read as a call, or refused with an error. -/
def ReadAs (platform : Platform) (addressing : Addressing) (carrier : TransactionInstruction) :
    Except DispatchError Instruction → Prop
  | .ok instruction => ∃ method, Carries addressing carrier method instruction
  | .error .DeclaredProgramIdMismatch => carrier.programId ≠ BATCHIT_PROGRAM_ID
  | .error .FrameworkInstruction =>
    carrier.programId = BATCHIT_PROGRAM_ID ∧
      (∀ method : Method, ¬ disc method.name <+: carrier.data) ∧
        ∃ tag ∈ platform.tags, tag <+: carrier.data
  | .error .InstructionFallbackNotFound =>
    carrier.programId = BATCHIT_PROGRAM_ID ∧
      (∀ method : Method, ¬ disc method.name <+: carrier.data) ∧
        ∀ tag ∈ platform.tags, ¬ tag <+: carrier.data
  | .error .InstructionDidNotDeserialize =>
    carrier.programId = BATCHIT_PROGRAM_ID ∧
      ∃ method : Method, disc method.name <+: carrier.data ∧
        carrier.data.length < 8 + method.width
  | .error .AccountsRefused =>
    carrier.programId = BATCHIT_PROGRAM_ID ∧
      ∃ method : Method, method.Known addressing ∧ method.data addressing <+: carrier.data ∧
        ∀ instruction : Instruction, instruction.method = some method →
          AccountMeta.covers carrier.keys instruction.metas = false

section Outcome

variable {platform : Platform} {addressing : Addressing} {carrier : TransactionInstruction}

/-- The method whose discriminator the bytes begin with decides the outcome. -/
theorem dispatch_of_entry {entry : String × Reader Method}
    (program : carrier.programId = BATCHIT_PROGRAM_ID) (member : entry ∈ methods addressing)
    (stands : disc entry.1 <+: carrier.data) :
    dispatch platform addressing carrier = match entry.2.from carrier.data 8 with
      | none => .error .InstructionDidNotDeserialize
      | some (method, _) => match method.withAccounts (carrier.keys.map AccountMeta.pubkey) with
        | none => .error .AccountsRefused
        | some instruction =>
          if AccountMeta.covers carrier.keys instruction.metas then .ok instruction
          else .error .AccountsRefused := by
  -- The program's own id is right, and the search ends at this entry.
  rw [dispatch, if_neg (not_not_intro program), find_entry member stands]

/-- Where the bytes begin with no method's discriminator, the framework's tags are tried. -/
theorem dispatch_of_none (program : carrier.programId = BATCHIT_PROGRAM_ID)
    (missing : ∀ method : Method, ¬ disc method.name <+: carrier.data) :
    dispatch platform addressing carrier =
      if platform.tags.any fun tag => tag.isPrefixOf carrier.data then .error .FrameworkInstruction
      else .error .InstructionFallbackNotFound := by
  have none : (methods addressing).find? (fun entry => (disc entry.1).isPrefixOf carrier.data)
      = none := by
    rw [List.find?_eq_none]
    intro entry member stands
    -- The name that is tried is some method's.
    obtain ⟨method, named⟩ := method_of_entry member
    exact missing method (named ▸ List.isPrefixOf_iff_prefix.mp stands)
  rw [dispatch, if_neg (not_not_intro program), none]

/-- A method and its arguments in front of the bytes are read as such. -/
theorem read_of_data {entry : String × Reader Method} {method : Method}
    (member : entry ∈ methods addressing) (named : method.name = entry.1)
    (known : method.Known addressing) (data : method.data addressing <+: carrier.data) :
    disc entry.1 <+: carrier.data ∧
      entry.2.from carrier.data 8 = some (method, 8 + method.width) := by
  -- The arguments begin where the discriminator ends.
  obtain ⟨stands, behind⟩ := Bytes.append_prefix_iff.mp data
  rw [length_disc] at behind
  rw [← method.length_args addressing, ← named]
  exact ⟨stands, (method_reads member _ _ _ _).mpr ⟨⟨named, known⟩, behind, rfl⟩⟩

/-- A call's own bytes, with its accounts in front, are read as the call if the accounts serve. -/
theorem dispatch_of_data {instruction : Instruction} {method : Method}
    (program : carrier.programId = BATCHIT_PROGRAM_ID) (asked : instruction.method = some method)
    (known : method.Known addressing) (data : method.data addressing <+: carrier.data)
    {rest : List Pubkey} (keys : carrier.keys.map AccountMeta.pubkey
      = instruction.metas.map AccountMeta.pubkey ++ rest) :
    dispatch platform addressing carrier =
      if AccountMeta.covers carrier.keys instruction.metas then .ok instruction
      else .error .AccountsRefused := by
  obtain ⟨entry, member, named⟩ := entry_of_method addressing method
  obtain ⟨stands, arguments⟩ := read_of_data member named known data
  -- The accounts make up the call again, whatever stands behind them.
  rw [dispatch_of_entry program member stands, arguments]
  simp only [keys, method.withAccounts_metas rest asked]

/-- A call sent with its own accounts is read as itself, if it asks to write no reserved one. -/
theorem dispatch_handed {instruction : Instruction} {method : Method}
    (program : carrier.programId = BATCHIT_PROGRAM_ID) (asked : instruction.method = some method)
    (known : method.Known addressing) (data : method.data addressing <+: carrier.data)
    (keys : carrier.keys = instruction.metas) :
    dispatch platform addressing (platform.handed carrier) =
      if platform.admits instruction then .ok instruction else .error .AccountsRefused := by
  have same : (platform.handed carrier).keys.map AccountMeta.pubkey
      = instruction.metas.map AccountMeta.pubkey ++ [] := by
    rw [Platform.handed, keys, List.map_map, List.append_nil]
    rfl
  -- The bytes are handed on as they are, and the accounts under the same addresses.
  have read := @dispatch_of_data platform addressing (platform.handed carrier) instruction method
    program asked known data [] same
  rw [read, Platform.handed, keys, AccountMeta.covers_demoted, ← Platform.admits]

/-- An instruction of a given shape has the outcome of that shape. -/
theorem dispatch_of_readAs {outcome : Except DispatchError Instruction}
    (read : ReadAs platform addressing carrier outcome) :
    dispatch platform addressing carrier = outcome := by
  cases outcome with
  | ok instruction =>
    obtain ⟨method, carries⟩ := read
    obtain ⟨rest, keys⟩ := AccountMeta.pubkeys_of_covers carries.keys
    rw [dispatch_of_data carries.program carries.asks carries.known carries.data keys,
      if_pos carries.keys]
  | error error =>
    cases error with
    | DeclaredProgramIdMismatch =>
      have other : carrier.programId ≠ BATCHIT_PROGRAM_ID := read
      rw [dispatch, if_pos other]
    | FrameworkInstruction =>
      obtain ⟨program, missing, tag, kept, begun⟩ := read
      have tagged : (platform.tags.any fun tag => tag.isPrefixOf carrier.data) = true :=
        List.any_eq_true.mpr ⟨tag, kept, List.isPrefixOf_iff_prefix.mpr begun⟩
      rw [dispatch_of_none program missing, if_pos tagged]
    | InstructionFallbackNotFound =>
      obtain ⟨program, missing, untagged⟩ := read
      rw [dispatch_of_none program missing, if_neg]
      intro tagged
      obtain ⟨tag, kept, begun⟩ := List.any_eq_true.mp tagged
      exact untagged tag kept (List.isPrefixOf_iff_prefix.mp begun)
    | InstructionDidNotDeserialize =>
      obtain ⟨program, method, stands, short⟩ := read
      obtain ⟨entry, member, named⟩ := entry_of_method addressing method
      have eight : 8 ≤ carrier.data.length := length_disc method.name ▸ stands.length_le
      rw [dispatch_of_entry program member (named ▸ stands),
        (method_takes member named carrier.data 8 eight).2 short]
    | AccountsRefused =>
      obtain ⟨program, method, known, data, refused⟩ := read
      obtain ⟨entry, member, named⟩ := entry_of_method addressing method
      obtain ⟨stands, arguments⟩ := read_of_data member named known data
      rw [dispatch_of_entry program member stands, arguments]
      -- Whatever call the accounts make up, they do not serve for it.
      cases taken : method.withAccounts (carrier.keys.map AccountMeta.pubkey) with
      | none => simp only [taken]
      | some instruction =>
        have unfit := refused instruction (Method.method_of_withAccounts taken)
        simp [taken, unfit]

/-- An instruction that begins with no method's discriminator is tagged for the framework or not. -/
theorem readAs_of_none (program : carrier.programId = BATCHIT_PROGRAM_ID)
    (missing : ∀ method : Method, ¬ disc method.name <+: carrier.data) :
    ∃ outcome, ReadAs platform addressing carrier outcome := by
  by_cases tagged : ∃ tag ∈ platform.tags, tag <+: carrier.data
  · exact ⟨.error .FrameworkInstruction, program, missing, tagged⟩
  · -- Then no tag stands in front of the bytes.
    refine ⟨.error .InstructionFallbackNotFound, program, missing, fun tag kept begun => ?_⟩
    exact tagged ⟨tag, kept, begun⟩

/-- Every instruction is read as something. -/
theorem readAs_total (platform : Platform) (addressing : Addressing)
    (carrier : TransactionInstruction) : ∃ outcome, ReadAs platform addressing carrier outcome := by
  by_cases program : carrier.programId = BATCHIT_PROGRAM_ID
  · by_cases begun : ∃ method : Method, disc method.name <+: carrier.data
    · obtain ⟨named, stands⟩ := begun
      obtain ⟨entry, member, same⟩ := entry_of_method addressing named
      have eight : 8 ≤ carrier.data.length := length_disc named.name ▸ stands.length_le
      cases arguments : entry.2.from carrier.data 8 with
      | none =>
        refine ⟨.error .InstructionDidNotDeserialize, program, named, stands, ?_⟩
        -- Enough bytes would have been read.
        by_contra long
        obtain ⟨value, read⟩ :=
          (method_takes member same carrier.data 8 eight).1 (Nat.le_of_not_lt long)
        rw [arguments] at read
        cases read
      | some read =>
        obtain ⟨method, behind⟩ := read
        obtain ⟨⟨name, known⟩, written, -⟩ := (method_reads member _ _ _ _).mp arguments
        have data : method.data addressing <+: carrier.data := by
          rw [Method.data, Bytes.append_prefix_iff, length_disc, name, ← same]
          exact ⟨stands, written⟩
        -- What is read is the call, unless no accounts of its own are served.
        by_cases fits : ∃ instruction : Instruction, instruction.method = some method ∧
            AccountMeta.covers carrier.keys instruction.metas = true
        · obtain ⟨instruction, asked, covered⟩ := fits
          exact ⟨.ok instruction, method, program, asked, known, data, covered⟩
        · refine ⟨.error .AccountsRefused, program, method, known, data, fun instruction asked => ?_⟩
          exact Bool.eq_false_of_not_eq_true fun covered => fits ⟨instruction, asked, covered⟩
    · exact readAs_of_none program fun method found => begun ⟨method, found⟩
  · exact ⟨.error .DeclaredProgramIdMismatch, program⟩

/-- An instruction with a given outcome is of its shape. -/
theorem readAs_of_dispatch {outcome : Except DispatchError Instruction}
    (dispatched : dispatch platform addressing carrier = outcome) :
    ReadAs platform addressing carrier outcome := by
  -- It is of some shape, whose outcome it then has.
  obtain ⟨other, read⟩ := readAs_total platform addressing carrier
  rw [dispatch_of_readAs read] at dispatched
  rwa [← dispatched]

/-- What an instruction is read as is decided by its program, its first bytes and its accounts. -/
theorem dispatch_outcome {outcome : Except DispatchError Instruction} :
    dispatch platform addressing carrier = outcome ↔ ReadAs platform addressing carrier outcome :=
  ⟨readAs_of_dispatch, dispatch_of_readAs⟩

end Outcome

end Batchit
