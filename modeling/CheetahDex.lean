import CheetahDex.Proof.PriceFloor
import CheetahDex.Proof.BuiltScripts
import CheetahDex.Proof.SharedRequests
import CheetahDex.Proof.Ownership
import CheetahDex.Proof.Quiescence
import CheetahDex.Proof.StartOnce
import CheetahDex.Proof.LockDuration
import CheetahDex.Proof.Payments
import CheetahDex.Proof.LockedBalance
import CheetahDex.Proof.BanRuns
import CheetahDex.Proof.TaskLives
import CheetahDex.Proof.WireRoundTrip
import CheetahDex.Proof.RecentlyCancelled
import CheetahDex.Proof.CacheRuns
import CheetahDex.Proof.EmptiedPair
import CheetahDex.Proof.MerkleProofs
import CheetahDex.Proof.DecodingSafety
import CheetahDex.Proof.ValidatedHeaders
import CheetahDex.Proof.HeaderWork
import CheetahDex.Proof.CompactTargets
import CheetahDex.Proof.ReorgConvergence
import CheetahDex.Proof.HashLocks
import CheetahDex.Proof.FeeAccepted
import CheetahDex.Proof.SettledV2
import CheetahDex.Proof.SpendSearch
import CheetahDex.Proof.SpvVectors
import CheetahDex.Proof.RecoveryV2
import CheetahDex.Proof.SwapLock
import CheetahDex.Proof.Recreated
import CheetahDex.Proof.TendermintHtlcs
import CheetahDex.Proof.TamperEvidence
import CheetahDex.Proof.TrieReorder
import CheetahDex.Proof.EthCodec
import CheetahDex.Proof.NonceRuns
import CheetahDex.Proof.BestOrders
import CheetahDex.Proof.TakerSpends
import CheetahDex.Proof.ValidOrders
import CheetahDex.Proof.Histories
import CheetahDex.Proof.Reservations
import CheetahDex.Proof.LargestVolume
