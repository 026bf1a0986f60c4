import GstSvpExt.Runs
import GstSvpExt.Ledger
import GstSvpExt.RecursiveMutex
import GstSvpExt.Interleaving
import GstSvpExt.Bytes
import GstSvpExt.HexDump
import GstSvpExt.FirstMatch
import GstSvpExt.Header
import GstSvpExt.Registers
import GstSvpExt.Layout
import GstSvpExt.HeaderRegs
import GstSvpExt.SecapiV2
import GstSvpExt.SecapiV2Ledger
import GstSvpExt.SecapiV3
import GstSvpExt.SecapiV3Alloc
import GstSvpExt.SecapiV3Ledger
import GstSvpExt.SecapiStatus
import GstSvpExt.SecapiV3Buffers
import GstSvpExt.SecapiV3Custody
import GstSvpExt.TokenHandOff
import GstSvpExt.DataBlock
import GstSvpExt.DataBlockRun
import GstSvpExt.DataBlockSize
import GstSvpExt.AdapterEncryptedData
import GstSvpExt.HeaderFrame
import GstSvpExt.DataBlockView
import GstSvpExt.DataBlockFree
import GstSvpExt.ProcessStore
import GstSvpExt.ProcessStoreRun
import GstSvpExt.Payload
import GstSvpExt.PayloadRun
import GstSvpExt.PayloadProtect
import GstSvpExt.PayloadPairs
import GstSvpExt.PayloadShared
import GstSvpExt.PayloadContext
import GstSvpExt.PayloadLive
import GstSvpExt.PayloadQueries
import GstSvpExt.PayloadPaths
import GstSvpExt.PayloadStream
import GstSvpExt.PayloadCaps
import GstSvpExt.ScopedLockSpec
import GstSvpExt.ScopedLock
import GstSvpExt.ScopedLockSteps
import GstSvpExt.ScopedLockRun
import GstSvpExt.ScopedLockProgress
import GstSvpExt.Logging
import GstSvpExt.LoggingDump
import GstSvpExt.ModuleInit
import GstSvpExt.HookTable
import GstSvpExt.HookTableRun
import GstSvpExt.DataBlockHooks
