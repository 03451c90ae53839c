import VisualSignParser.Codec.Text

/-!
# Programs with an identity of their own

Native programs, the programs with an IDL in the parser crate and the programs
of the presets.  A caller can neither rename one of them nor give it an IDL.
-/

namespace VisualSignParser.Solana

/-- The programs the parser crate has an IDL for. -/
inductive ProgramType where
  | apePro
  | candyMachine
  | drift
  | jupiterLimit
  | jupiter
  | kamino
  | lifinity
  | meteora
  | openbook
  | orca
  | raydium
  | stabble
  | jupiterAggregatorV6
  deriving DecidableEq

def nativeProgramNames : List (String × String) :=
  [("11111111111111111111111111111111", "System Program"),
    ("ATokenGPvbdGVxr1b2hvZbsiqW5xWH25efTNsLJA8knL", "Associated Token Account Program"),
    ("AddressLookupTab1e1111111111111111111111111", "Address Lookup Table Program"),
    ("BPFLoader1111111111111111111111111111111111", "BPF Loader"),
    ("BPFLoader2111111111111111111111111111111111", "BPF Loader 2"),
    ("BPFLoaderUpgradeab1e11111111111111111111111", "BPF Loader Upgradeable"),
    ("ComputeBudget111111111111111111111111111111", "Compute Budget Program"),
    ("Config1111111111111111111111111111111111111", "Config Program"),
    ("Ed25519SigVerify111111111111111111111111111", "Ed25519 Signature Verify Program"),
    ("KeccakSecp256k11111111111111111111111111111", "Secp256k1 Signature Verify Program"),
    ("Memo1UhkJRfHyvLMcVucJwxXeuD728EqVDDwQDxFMNo", "Memo Program v1"),
    ("MemoSq4gqABAXKb96qnH8TysNcWxMyWCqXgDLGmfcHr", "Memo Program"),
    ("SPoo1Ku8WFXoNDMHPsrGSTSG1Y47rzgn41SLUNakuHy", "SPL Stake Pool Program"),
    ("Secp256r1SigVerify1111111111111111111111111", "Secp256r1 Signature Verify Program"),
    ("Stake11111111111111111111111111111111111111", "Stake Program"),
    ("TokenkegQfeZyiNwAJbNbGKPFXCWuBvf9Ss623VQ5DA", "SPL Token Program"),
    ("TokenzQdBNbLqP5VEhdkAS6EPFLC1PHnBqCXEpPxuEb", "SPL Token-2022 Program"),
    ("Vote111111111111111111111111111111111111111", "Vote Program"),
    ("hausS13jsjafwWwGqZTUQRmWyvyxn9EQpqMwV1PBBmk", "Metaplex Auction House Program"),
    ("metaqbxxUerdq28cj1RbAWkYQm3ybzjb6a8bt518x1s", "Metaplex Token Metadata Program"),
    ("namesLPneVptA9Z5rqUDD9tMTWEJwofgaYwp8cawRkX", "SPL Name Service Program")]

def builtinIdlProgramName : ProgramType → String
  | .apePro => "Ape Pro"
  | .candyMachine => "Metaplex Candy Machine"
  | .drift => "Drift Protocol V2"
  | .jupiterLimit => "Jupiter Limit"
  | .jupiter => "Jupiter Swap"
  | .kamino => "Kamino"
  | .lifinity => "Lifinity Swap V2"
  | .meteora => "Meteora"
  | .openbook => "Openbook"
  | .orca => "Orca Whirlpool"
  | .raydium => "Raydium"
  | .stabble => "Stabble"
  | .jupiterAggregatorV6 => "Jupiter Aggregator V6"

/-- The keys of `programs` in the configuration of each preset, in the order of
the preset directories. -/
def presetProgramIds : List String :=
  ["ATokenGPvbdGVxr1b2hvZbsiqW5xWH25efTNsLJA8knL",
    "ComputeBudget111111111111111111111111111111",
    "DF1ow4tspfHX9JwWJsAb9epbkA8hmpSEAtxXy1V27QBH",
    "dRiftyHA39MWEi3m9aunc5MzRF1JYuBsbn6VPcn33UH",
    "ExponentnaRg3CQbW6dqQNZKXp7gtZ9DGMp1cwC4HAS7",
    "jupr81YtYssSyPt8jbnGuiWon5f6x9TcDEFxYe3Bdzi",
    "jup3YeL8QhtSx1e253b2FDvsMNC87fDrgQZivbrndc9",
    "PERPHjGBqRHArX4DySjwM6UJHiR3sWAatqfdBS2qQJu",
    "JUP6LkbZbjS1jKKwapdHNy74zcZ3tLUZoi5QNyVTaV4",
    "KLend2g3cP87fffoy8q1mQqGKjrxjC8boSyAYavgmjD",
    "FarmsPZpWu9i7Kky8tPN37rs2TpmMrAZrC7S7vJa91Hr",
    "LiMoM9rMhrdYrfzUCxQppvxCSG1FcrUK9G8uLq4A1GF",
    "KvauGMspG5k6rtzrqqn7WNn3oZdyKqLKwK2XWQ8FLjd",
    "MFv2hWf31Z9kbCa1snEPdcgp7X3GK4Y9EtyMkRxBUGA",
    "VLTX1ishMBbcX3rdBWGssxawAo1Q2X2qxYFYqiGodVg",
    "FUTARELBfJfQ8RDGhg1wdhddq1odMAJUePHFuBYfUxKq",
    "cpamdpZCGKUy5JxQXB4dcpGPiikHawvSWAd6mEn1sGG",
    "LBUZKhRxPF3XUpBCjp4YzTKgLccjZhTSDM9YuVaPwxo",
    "BUNDDh4P5XviMm1f3gCvnq2qKx6TGosAGnoUK12e7cXU",
    "onreuGhHHgVzMWSkj2oQDLDtvvGvoepBPkqyaubFcwe",
    "whirLbMiicVdio4qvUfM5KAg6Ct8VwpYzGff3uctyCc",
    "TokenkegQfeZyiNwAJbNbGKPFXCWuBvf9Ss623VQ5DA",
    "SQDS4ep65T869zMMBKyuUq6aD6EgTu8psMjkvj52pCf",
    "SPoo1Ku8WFXoNDMHPsrGSTSG1Y47rzgn41SLUNakuHy",
    "swigypWHEksbC64pWKwah1WTeh9JXwx8H1rJHLdbQMB",
    "11111111111111111111111111111111",
    "TokenzQdBNbLqP5VEhdkAS6EPFLC1PHnBqCXEpPxuEb"]

section Identity

-- `ProgramType::from_program_id` of the parser crate.
variable (fromProgramId : String → Option ProgramType)

def canonicalName (programId : String) : Option String :=
  match nativeProgramNames.find? fun entry => entry.1 = programId with
  | some entry => some entry.2
  | none => (fromProgramId programId).map builtinIdlProgramName

def isTrustedProgram (programId : String) : Bool :=
  (canonicalName fromProgramId programId).isSome || presetProgramIds.contains programId

end Identity

def programTypes : List ProgramType :=
  [.apePro, .candyMachine, .drift, .jupiterLimit, .jupiter, .kamino, .lifinity, .meteora,
    .openbook, .orca, .raydium, .stabble, .jupiterAggregatorV6]

def isReservedCanonicalName (name : String) : Bool :=
  (nativeProgramNames.any fun entry => entry.2 = name) ||
    programTypes.any fun program => builtinIdlProgramName program = name

theorem canonicalName_of_not_trusted {fromProgramId : String → Option ProgramType}
    {programId : String} (htrusted : isTrustedProgram fromProgramId programId = false) :
    canonicalName fromProgramId programId = none := by
  rw [isTrustedProgram, Bool.or_eq_false_iff] at htrusted
  exact Option.isNone_iff_eq_none.1 (by rw [← Option.not_isSome, htrusted.1]; rfl)

/-- No reserved name begins like the label of an unknown program. -/
theorem isReservedCanonicalName_program (rest : String) :
    isReservedCanonicalName ("Program " ++ rest) = false := by
  have hne {name : String} (hname : ¬"Program ".toList <+: name.toList) :
      decide (name = "Program " ++ rest) = false := by
    apply decide_eq_false
    intro heq
    apply hname
    rw [heq, String.toList_append]
    exact List.prefix_append ..
  have hnative : ∀ entry ∈ nativeProgramNames, ¬"Program ".toList <+: entry.2.toList := by decide
  have hbuiltin : ∀ program ∈ programTypes,
      ¬"Program ".toList <+: (builtinIdlProgramName program).toList := by decide
  rw [isReservedCanonicalName, Bool.or_eq_false_iff]
  constructor
  · apply List.any_eq_false.2
    intro entry hentry
    rw [hne (hnative entry hentry)]
    exact Bool.false_ne_true
  · apply List.any_eq_false.2
    intro program hprogram
    rw [hne (hbuiltin program hprogram)]
    exact Bool.false_ne_true

end VisualSignParser.Solana
