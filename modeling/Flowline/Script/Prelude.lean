/-!
# The fixed parts of the generated script

The imports and the helper functions that the expressions of the steps refer to.
-/

namespace Flowline.Script

/-- What is imported from the workflow toolkit. -/
def toolkitNames : List String := [
  "bytesToHex", "consensusIdenticalAggregation", "cre", "encodeCallMsg", "getNetwork",
  "hexToBase64", "LAST_FINALIZED_BLOCK_NUMBER", "ok", "Runner", "type CronPayload", "type EVMLog",
  "type HTTPPayload", "type HTTPSendRequester", "type Runtime"]

/-- What is imported for talking to contracts. -/
def contractNames : List String := [
  "decodeFunctionResult", "encodeFunctionData", "keccak256", "parseAbi", "toHex", "zeroAddress",
  "type Abi", "type Address"]

/-- The helper functions, line by line. -/
def prelude : List String := [
  "const __stringify = (v: unknown): string =>",
  "  JSON.stringify(v, (_, x) => (typeof x === \"bigint\" ? x.toString() : x));",
  "",
  "const __parse = (v: unknown): any => (typeof v === \"string\" ? JSON.parse(v) : v);",
  "",
  "const __unresolved = (what: string): never => \x7b",
  "  throw new Error(`unresolved binding: $\x7bwhat\x7d`);",
  "\x7d;",
  "",
  "const __evmClient = (chainSelectorName: string, isTestnet: boolean) => \x7b",
  "  const network = getNetwork(\x7b chainFamily: \"evm\", chainSelectorName, isTestnet \x7d);",
  "  if (!network) \x7b",
  "    throw new Error(`network not found: $\x7bchainSelectorName\x7d`);",
  "  \x7d",
  "  return new cre.capabilities.EVMClient(network.chainSelector.selector);",
  "\x7d;",
  "",
  "type __Request = \x7b url: string; method: string; headers?: Record<string, string>; " ++
    "body?: unknown; timeoutMs?: number \x7d;",
  "",
  "const __httpJson = (runtime: Runtime<Config>, request: __Request) => \x7b",
  "  const fetcher = (sendRequester: HTTPSendRequester, r: __Request) => \x7b",
  "    const resp = sendRequester",
  "      .sendRequest(\x7b",
  "        url: r.url,",
  "        method: r.method,",
  "        headers: r.headers ?? \x7b\x7d,",
  "        body: r.body === undefined ? undefined : Buffer.from(__stringify(r.body)).toString(\"base64\"),",
  "        timeoutMs: r.timeoutMs,",
  "      \x7d)",
  "      .result();",
  "    if (!ok(resp)) \x7b",
  "      throw new Error(`HTTP $\x7bresp.statusCode\x7d from $\x7br.url\x7d`);",
  "    \x7d",
  "    return \x7b status: resp.statusCode, body: __parse(new TextDecoder().decode(resp.body)) \x7d;",
  "  \x7d;",
  "  return new cre.capabilities.HTTPClient()",
  "    .sendRequest(runtime, fetcher, consensusIdenticalAggregation())(request)",
  "    .result();",
  "\x7d;",
  "",
  "const __evmRead = (",
  "  runtime: Runtime<Config>,",
  "  client: any,",
  "  address: Address,",
  "  functionName: string,",
  "  abi: Abi,",
  "  args: readonly unknown[],",
  "): any => \x7b",
  "  const data = encodeFunctionData(\x7b abi, functionName, args \x7d);",
  "  const reply = client",
  "    .callContract(runtime, \x7b",
  "      call: encodeCallMsg(\x7b from: zeroAddress, to: address, data \x7d),",
  "      blockNumber: LAST_FINALIZED_BLOCK_NUMBER,",
  "    \x7d)",
  "    .result();",
  "  return decodeFunctionResult(\x7b abi, functionName, data: bytesToHex(reply.data) \x7d);",
  "\x7d;",
  "",
  "const __evmWrite = (",
  "  runtime: Runtime<Config>,",
  "  client: any,",
  "  receiver: Address,",
  "  gasLimit: bigint,",
  "  payload: unknown,",
  "): string => \x7b",
  "  const report = runtime",
  "    .report(\x7b",
  "      encodedPayload: hexToBase64(toHex(__stringify(payload))),",
  "      encoderName: \"evm\",",
  "      signingAlgo: \"ecdsa\",",
  "      hashingAlgo: \"keccak256\",",
  "    \x7d)",
  "    .result();",
  "  const resp = client",
  "    .writeReport(runtime, \x7b receiver, report, gasConfig: \x7b gasLimit: gasLimit.toString() \x7d \x7d)",
  "    .result();",
  "  return bytesToHex(resp.txHash ?? new Uint8Array(32));",
  "\x7d;"]

end Flowline.Script
