import Podmesh.Protocol.Execution

namespace Podmesh

def DeploymentReceipt.verify (p : Platform) (self : DeploymentReceipt) : Except String Unit := do
  let agent ← p.decodeFixed self.agentNodeId 32 "agent_node_id"
  let _ ← p.decodeFixed self.namespaceId 32 "namespace_id"
  validateHexId self.workloadId "workload_id"
  validateHexId self.revisionId "revision_id"
  ensure (self.version == agentProtocolVersion) "unsupported deployment receipt version"
  let signature ← p.decodeFixed self.signature 64 "signature"
  p.verifyBody agent .deploymentReceipt (.deploymentReceipt { self with signature := "" }) signature

def UpdateResponse.verify (p : Platform) (self : UpdateResponse) (nowSecs : UInt64) : Except String Unit := do
  ensure (self.version == agentProtocolVersion) "unsupported update response version"
  validateHexId self.expectedRevisionId "expected_revision_id"
  validateHexId self.requestedRevisionId "requested_revision_id"
  self.receipt.verify p
  ensure (boundedText self.requestId) "invalid request_id"
  ensure (self.reason.utf8ByteSize ≤ 1024) "update response field length is invalid"
  ensure (self.respondedAtSecs.toNat ≤ saturatingAdd u64Max nowSecs.toNat maxAgentClockSkewSecs)
    "update response was issued too far in the future"
  let signature ← p.decodeFixed self.signature 64 "signature"
  let agent ← p.b64Decode self.receipt.agentNodeId
  p.verifyBody agent .updateResponse (.updateResponse { self with signature := "" }) signature

namespace WorkloadListResponse

def verifyWorkload (p : Platform) (self : WorkloadListResponse) (workload : WorkloadSummary) :
    Except String Unit := do
  validateHexId workload.workloadId "workload_id"
  validateHexId workload.revisionId "revision_id"
  ensure (workload.state.utf8ByteSize ≤ 128 && workload.workloadName.utf8ByteSize ≤ 253)
    "workload summary field exceeds its bound"
  workload.receipt.verify p
  ensure (workload.receipt.workloadId == workload.workloadId
      && workload.receipt.revisionId == workload.revisionId
      && workload.receipt.agentNodeId == self.agentNodeId)
    "workload summary receipt does not match the reported placement"

def verify (p : Platform) (self : WorkloadListResponse) : Except String Unit := do
  ensure (self.version == agentProtocolVersion) "unsupported workload list response version"
  let agent ← p.decodeFixed self.agentNodeId 32 "agent_node_id"
  let _ ← p.decodeFixed self.agentKemPubkey 32 "agent_kem_pubkey"
  self.agentEndpoint.verify p self.respondedAtSecs
  ensure (self.agentEndpoint.signingPubkey == self.agentNodeId)
    "workload list endpoint does not belong to the responding agent"
  ensure (self.workloads.length ≤ maxListedWorkloads)
    s!"workload list response exceeds {maxListedWorkloads} entries"
  forEach (self.verifyWorkload p) self.workloads
  let signature ← p.decodeFixed self.signature 64 "signature"
  p.verifyBody agent .workloadListResponse (.workloadListResponse { self with signature := "" })
    signature

end WorkloadListResponse

end Podmesh
