import Erc4337.Arith
/-!
Limits of the operation pool: how many pending operations one sender may have, how many a
throttled entity may have, and how many operations one claim takes. A zero limit stands for
the default.
-/
namespace Erc4337.Mempool

def defaultMaxOpsPerSender : UInt64 := 4

def defaultThrottledEntityMempoolCount : UInt64 := 4

def defaultBatchLimit : Int := 100

structure Config where
  maxOpsPerSender : UInt64 := 0
  throttledEntityMempoolCount : UInt64 := 0
  batchLimit : Int := 0
  deriving Inhabited

def Config.withDefaults (c : Config) : Config :=
  { maxOpsPerSender := if c.maxOpsPerSender = 0 then defaultMaxOpsPerSender else c.maxOpsPerSender
    throttledEntityMempoolCount :=
      if c.throttledEntityMempoolCount = 0 then defaultThrottledEntityMempoolCount else c.throttledEntityMempoolCount
    batchLimit := if c.batchLimit ≤ 0 then defaultBatchLimit else c.batchLimit }

end Erc4337.Mempool
