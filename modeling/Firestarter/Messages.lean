import Firestarter.Types

/-! Identifiers of the frames the firmware sends (`messages.h`). -/
namespace Firestarter

def msgOkReady : U8 := 0x01
def msgOkReqData : U8 := 0x02
def msgOkRev : U8 := 0x04
def msgOkCfg : U8 := 0x05
def msgInitDone : U8 := 0x10
def msgMainDone : U8 := 0x20
def msgEndDone : U8 := 0x30
def msgInfoMainStart : U8 := 0x40
def msgInfoMainDone : U8 := 0x41
def msgInfoInitStart : U8 := 0x42
def msgInfoEndStart : U8 := 0x43
def msgInfoRegisters : U8 := 0x44
def msgInfoCeOe : U8 := 0x55
def msgInfoAddr : U8 := 0x56
def msgInfoAddrRemap : U8 := 0x57
def msgInfoSkippingErase : U8 := 0x58
def msgInfoSkippingEraseMem : U8 := 0x59
def msgInfoFw : U8 := 0x5A
def msgInfoHw : U8 := 0x5B
def msgInfoPhysicalHw : U8 := 0x5C
def msgInfoCmd : U8 := 0x5D
def msgInfoSdpUnlock : U8 := 0x5E
def msgInfoSdpUnlockDoneUs : U8 := 0x5F
def msgInfoSdpLock : U8 := 0x60
def msgInfoSdpLockDoneUs : U8 := 0x61
def msgInfoPageLoadWorstUs : U8 := 0x62
def msgWarnRev0VppUnsupported : U8 := 0x80
def msgWarnChipIdMismatch : U8 := 0x83
def msgWarnMemSizeTooSmall : U8 := 0x84
def msgWarnSdpUnlockSkipped : U8 := 0x86
def msgWarnSdpTblcExceeded : U8 := 0x87
def msgWarnNotCalibrated : U8 := 0x89
def msgWarnVppLowMv : U8 := 0x8A
def msgWarnVppHighMv : U8 := 0x8B
def msgErrBadFrame : U8 := 0xA0
def msgErrSetup : U8 := 0xA2
def msgErrParseCfg : U8 := 0xA3
def msgErrEmptyInput : U8 := 0xA4
def msgErrNotSupported : U8 := 0xA5
def msgErrNoChipId : U8 := 0xA6
def msgErrOutOfRange : U8 := 0xA7
def msgErrTimeout : U8 := 0xA8
def msgErrDataErrN : U8 := 0xA9
def msgErrCmdTimeout : U8 := 0xAA
def msgErrUnknownCmd : U8 := 0xAB
def msgErrRev0VppRd : U8 := 0xAC
def msgErrCmd : U8 := 0xAD
def msgErrPulseTooWide : U8 := 0xAE
def msgErrVerify : U8 := 0xAF
def msgErrNotBlank : U8 := 0xB0
def msgErrEepromTimeout : U8 := 0xB2
def msgErrFl4VerifyTimeout : U8 := 0xB3
def msgErrIntelVpp : U8 := 0xB4
def msgErrIntelProgram : U8 := 0xB5
def msgErrIntelSrTimeout : U8 := 0xB6
def msgErrOpTimeout : U8 := 0xB7
def msgErrChipIdMismatch : U8 := 0xB9
def msgErrMemSizeTooSmall : U8 := 0xBA
def msgErrProtocolNotImplemented : U8 := 0xBB
def msgErrMaxPulses : U8 := 0xBD
def msgErrEnergyCap : U8 := 0xBE
def msgErrFl4PageSize : U8 := 0xBF
def msgErrFl4PageAlign : U8 := 0xC0
def msgErrCalibration : U8 := 0xC1
def msgErrBadCommand : U8 := 0xC2
def msgErrFrameVersion : U8 := 0xC3
def msgErrVppHighMv : U8 := 0xC4
def msgDataProgress : U8 := 0xE0
def msgDataProtectionStatus : U8 := 0xE1
def msgDataSending : U8 := 0xE2
def msgDataVppMv : U8 := 0xE3
def msgDataChunk : U8 := 0xE6
def msgDataAdcRaw : U8 := 0xE7
def msgDataVpeMv : U8 := 0xE8

end Firestarter
