import Firestarter.AddressMapping
import Firestarter.ArrayBounds
import Firestarter.BoardReset
import Firestarter.BurstDetection
import Firestarter.CommandGrammar
import Firestarter.CommandTurns
import Firestarter.CompletionPolls
import Firestarter.ConfigMigration
import Firestarter.ConfigRuns
import Firestarter.DeferredLog
import Firestarter.DualSlot
import Firestarter.EepromPages
import Firestarter.EpromBatch
import Firestarter.EpromBudget
import Firestarter.EpromRoutes
import Firestarter.EraseContents
import Firestarter.FiveVolt
import Firestarter.FlashPages
import Firestarter.FrameReception
import Firestarter.FrameRoundTrip
import Firestarter.IntelSessions
import Firestarter.LatchCoherence
import Firestarter.LogStream
import Firestarter.Pin1Switch
import Firestarter.RailSelection
import Firestarter.RangeAdmission
import Firestarter.ReadTransfer
import Firestarter.SaturatedReadings
import Firestarter.StoreSequence
import Firestarter.StrayBytes
import Firestarter.UnlockedSessions
import Firestarter.UnmeasuredRail
import Firestarter.UsbTransmit
import Firestarter.VoltageGate
import Firestarter.VoltageScaling
import Firestarter.WriteContents
import Firestarter.WriteProgress
import Firestarter.WriteTransfer
