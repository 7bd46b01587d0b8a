import Mathlib.Data.Vector.Defs
import PumpSwapSdk.Basic

/-!
# Pinned addresses and sizes

The addresses the SDK fixes at compile time, and those of the programs it calls.
-/

set_option autoImplicit false

namespace PumpSwapSdk

def pumpSwapProgramId : Pubkey := pubkey "pAMMBay6oceH9fJKBRHGP5D4bD4sWpmSwMn52FMfXEA"

def pumpfunProgram : Pubkey := pubkey "6EF8rrecthR5Dkzon8Nwu78hRvfCKubJ14M5uBEwF6P"

def pumpfunGlobal : Pubkey := pubkey "4wTV1YmiEkRvAtNtsSGPtUrqRYQMe5SKy2uB4Jjaxnjf"

def pumpfunEventAuthority : Pubkey := pubkey "Ce6TQqeHC9p8KetsN6JsjHK7UTZk7nasjjnr7XxXp9F1"

/-- Metaplex token metadata. -/
def tokenMetadataProgram : Pubkey := pubkey "metaqbxxUerdq28cj1RbAWkYQm3ybzjb6a8bt518x1s"

def feeProgram : Pubkey := pubkey "pfeeUxB6jkeY1Hxd7CsFCAjcbHA9rWtchMGdZ6VojVZ"

def eventAuthority : Pubkey := pubkey "GS4CU59F31iL7aR2Q8zVS8DRrcRnXX1yjQ66TqNVQnaR"

def globalConfig : Pubkey := pubkey "ADyA8hdefvWN2dbGGWFotbzWxrAvLW83WG6QCVXvJKqw"

/-- Size in bytes of a current pool account, discriminator included. -/
def poolAccountNewSize : ℕ := 301

def globalVolumeAccumulator : Pubkey := pubkey "C2aFPdENg4A2HQsmrd5rTw5TaYBX5Ku887cWjbFKtZpw"

def wrappedSolMint : Pubkey := pubkey "So11111111111111111111111111111111111111112"

/-- Slippage the client's convenience methods apply, as a fraction. -/
def defaultSlippage : Float := 0.005

/-! ## Fee recipients -/

def protocolFeeRecipients : List.Vector Pubkey 8 :=
  ⟨[pubkey "62qc2CNXwrYqQScmEdiZFFAnJR262PxWEuNQtxfafNgV",
    pubkey "7VtfL8fvgNfhz17qKRMjzQEXgbdpnHHHQRh54R9jP2RJ",
    pubkey "7hTckgnGnLQR6sdH7YkqFTAA7VwTfYFaZ6EhEsU3saCX",
    pubkey "9rPYyANsfQZw3DnDmKE3YCQF5E8oD89UXoHn9JFEhJUz",
    pubkey "AVmoTthdrX6tKt4nDjco2D775W2YK3sDhxPcMmzUAmTY",
    pubkey "FWsW1xNtWscwNmKv6wVsU1iTzRN6wmmk3MjxRP5tT7hz",
    pubkey "G5UZAVbAf46s7cKWoyKu8kYTip9DGTpbLZ2qa9Aq69dP",
    pubkey "JCRGumoE9Qi5BBgULTgdgTLjSgkCMSbF62ZZfGs84JeU"], rfl⟩

def reservedFeeRecipients : List.Vector Pubkey 8 :=
  ⟨[pubkey "GesfTA3X2arioaHp8bbKdjG9vJtskViWACZoYvxp4twS",
    pubkey "4budycTjhs9fD6xw62VBducVTNgMgJJ5BgtKq7mAZwn6",
    pubkey "8SBKzEQU4nLSzcwF4a74F2iaUDQyTfjGndn6qUWBnrpR",
    pubkey "4UQeTP1T39KZ9Sfxzo3WR5skgsaP6NZa87BAkuazLEKH",
    pubkey "8sNeir4QsLsJdYpc9RZacohhK1Y5FLU3nC5LXgYB4aa6",
    pubkey "Fh9HmeLNUMVCvejxCtCL2DbYaRyBFVJ5xrWkLnMH6fdk",
    pubkey "463MEnMeGyJekNZFQSTUABBEbLnvMTALbT6ZmsxAbAdq",
    pubkey "6AUH3WEHucYZyC61hqpqYUWVto5qA5hjHuNQ32GNnNxA"], rfl⟩

def buybackFeeRecipients : List.Vector Pubkey 8 :=
  ⟨[pubkey "5YxQFdt3Tr9zJLvkFccqXVUwhdTWJQc1fFg2YPbxvxeD",
    pubkey "9M4giFFMxmFGXtc3feFzRai56WbBqehoSeRE5GK7gf7",
    pubkey "GXPFM2caqTtQYC2cJ5yJRi9VDkpsYZXzYdwYpGnLmtDL",
    pubkey "3BpXnfJaUTiwXnJNe7Ej1rcbzqTTQUvLShZaWazebsVR",
    pubkey "5cjcW9wExnJJiqgLjq7DEG75Pm6JBgE1hNv4B2vHXUW6",
    pubkey "EHAAiTxcdDwQ3U4bU6YcMsQGaekdzLS3B5SmYo46kJtL",
    pubkey "5eHhjP8JaYkz83CWwvGU2uMUXefd3AazWGx4gpcuEEYD",
    pubkey "A7hAgCzFw14fejgCp387JUJRMNyz4j89JKnhtKU8piqW"], rfl⟩

/-! ## Programs of other crates -/

namespace SplToken

/-- `spl_token::ID`. -/
def id : Pubkey := pubkey "TokenkegQfeZyiNwAJbNbGKPFXCWuBvf9Ss623VQ5DA"

/-- `spl_token::state::Account::LEN`. -/
def accountLen : ℕ := 165

end SplToken

/-- `spl_token_2022::ID`. -/
def SplToken2022.id : Pubkey := pubkey "TokenzQdBNbLqP5VEhdkAS6EPFLC1PHnBqCXEpPxuEb"

/-- `spl_associated_token_account::ID`. -/
def SplAssociatedTokenAccount.id : Pubkey := pubkey "ATokenGPvbdGVxr1b2hvZbsiqW5xWH25efTNsLJA8knL"

/-- `solana_system_interface::program::ID`. -/
def SystemProgram.id : Pubkey := pubkey "11111111111111111111111111111111"

end PumpSwapSdk
