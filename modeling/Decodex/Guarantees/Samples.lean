import Decodex.Source.Store.Schema

/-!
# Sample data

Identities, digests and a host that pass the checks of their types. The instances that follow the
results are built from them.
-/
namespace Decodex.Guarantees.Samples

open Decodex.Library Decodex.Source.Core Decodex.Source.Store

def sampleConversation : ConversationId := ⟨"10000000-0000-4000-8000-000000000003", by decide⟩

def sampleSession : RuntimeSessionId := ⟨"20000000-0000-4000-8000-000000000001", by decide⟩

def sampleTurn : TurnId := ⟨"30000000-0000-4000-8000-000000000001", by decide⟩

def sampleGeneration : ProcessGenerationId := ⟨"40000000-0000-4000-8000-000000000001", by decide⟩

def sampleEpoch : ProcessExecutionEpochId := ⟨"50000000-0000-4000-8000-000000000001", by decide⟩

def sampleAccount : AccountId := ⟨"60000000-0000-4000-8000-000000000001", by decide⟩

def sampleDigest : String := "aaaaaaaaaaaaaaaaaaaaaaaaaaaaaaaaaaaaaaaaaaaaaaaaaaaaaaaaaaaaaaaa"

/-- The SHA-256 digest of a history page without items that continues at `cached-next`. -/
def samplePageDigest : String := "72908abdf71e80cf521b7dd94147f08d64e73d9d5a81544fea93391fed46fbcf"

def sampleBlobDigest (_ : List UInt8) : BlobHash := ⟨List.replicate 32 7, rfl⟩

def sampleHost : Host where
  digest _ := sampleDigest
  jsonDigest _ := sampleDigest
  blobDigest := sampleBlobDigest
  containsCredentialMaterial _ := false

/-- One active conversation. -/
def sampleConversations : Table conversations :=
  ⟨[⟨sampleConversation, .active, 1, 1, 1⟩], by decide, by decide⟩

end Decodex.Guarantees.Samples
